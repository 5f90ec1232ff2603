import ClientGen.Proofs.Plan.Faults
import ClientGen.Proofs.Plan.Files
import ClientGen.Proofs.Template.Pieces

/-!
# The file of a module's functions

What the built-in templates make of operations, word for word: one function for each operation in
order, behind the imports and the aliases of the responses.
-/

namespace ClientGen

open Api Document Emission Output Template TypeScript

variable {c : Setting} {t : Target} {ops : List ClientOperation} {scope : Scope}

/-! ### Pieces -/

/-- Some texts in order, an empty line in front of each. -/
def spaced (texts : List String) : String :=
  String.join (texts.map fun s => "\n" ++ s ++ "\n")

/-- A loop that shows each of some texts behind an empty line. -/
lemma render_spaced {item list : String} {texts : List String} {ownLine : Bool}
    (free : constants.lookup item = none)
    (found : valueOfName? scope list = some (.texts texts)) :
    (Piece.each item (.name list) [.text "\n", shown item, .text "\n"] ownLine).render scope =
      .ok (spaced texts) := by
  refine render_each found fun s _ last => ?_
  have value : valueOfName? ((item, .str s) :: ("loop", last) :: scope) item = some (.str s) :=
    valueOfName?_of_lookup free (by simp)
  simp only [renderAll, Piece.render, shown, Expr.eval, value, bind, Except.bind, Functor.map,
    Except.map, pure, Except.pure, Value.shown, String.append_empty, String.append_assoc]

/-- The entry of an import is shown as a line. -/
lemma render_imports {keyword : String} {entries : List (String × String)}
    (found : valueOfName? scope "imports" =
      some (.list (entries.map fun e => importEntry e.1 e.2))) :
    (imports keyword).render scope =
      .ok (String.join (entries.map fun e => importLine keyword e.1 e.2)) := by
  unfold imports
  exact render_each found fun e _ last => renderAll_importEntry

/-! ### Addresses -/

/-- The address of an operation, each placeholder as the hole of the argument that is called after it. -/
def Api.Operation.filledUrl (op : Operation) (baseUrl : String) : String :=
  String.ofList (literalText (Text.dropEndWhile (· == '/') baseUrl.toList) ++
    urlText pathArgumentName (pathPieces op.path.toList))

lemma mem_of_leadingLiteral {q p : PathPiece} : ∀ {ps rest : List PathPiece} {cs : List Char},
    leadingLiteral ps = (cs, p :: rest) → q ∈ p :: rest → q ∈ ps
  | [], _, _, h, _ => by simp [leadingLiteral] at h
  | .literal c :: ps, rest, cs, h, hq => by
    rcases hl : leadingLiteral ps with ⟨cs', more⟩
    rw [leadingLiteral, hl, Prod.mk.injEq] at h
    obtain ⟨-, rfl⟩ := h
    exact List.mem_cons_of_mem _ (mem_of_leadingLiteral hl hq)
  | .placeholder name :: ps, rest, cs, h, hq => by
    rw [leadingLiteral, Prod.mk.injEq] at h
    · exact h.2 ▸ hq
    · simp

section Addresses

variable {f g : String → String} {ps rest : List PathPiece} {cs name : List Char}

lemma urlText_of_placeholder (h : leadingLiteral ps = (cs, .placeholder name :: rest)) :
    urlText f ps = literalText cs ++ argumentHole (f (String.ofList name)) ++ urlText f rest := by
  rw [urlText]
  split
  · next same =>
    rw [h, Prod.mk.injEq, List.cons.injEq, PathPiece.placeholder.injEq] at same
    obtain ⟨rfl, rfl, rfl⟩ := same
    rfl
  · next other same =>
    rw [h, Prod.mk.injEq] at same
    exact absurd same.2.symm (other _ _)

lemma urlText_of_literal (h : leadingLiteral ps = (cs, rest))
    (other : ∀ name more, rest ≠ .placeholder name :: more) : urlText f ps = literalText cs := by
  rw [urlText]
  split
  · next same =>
    rw [h, Prod.mk.injEq] at same
    exact absurd same.2 (other _ _)
  · next same =>
    rw [h, Prod.mk.injEq] at same
    rw [same.1]

/-- An address depends on the arguments of its placeholders only. -/
lemma urlText_congr (ps : List PathPiece) :
    (∀ name, .placeholder name ∈ ps → f (String.ofList name) = g (String.ofList name)) →
      urlText f ps = urlText g ps := by
  induction ps using urlText.induct with
  | case1 ps cs name rest h _ ih =>
    intro same
    rw [urlText_of_placeholder h, urlText_of_placeholder h,
      same name (mem_of_leadingLiteral h List.mem_cons_self),
      ih fun n hn => same n (mem_of_leadingLiteral h (List.mem_cons_of_mem _ hn))]
  | case2 ps cs rest other h =>
    intro _
    rw [urlText_of_literal h other, urlText_of_literal h other]

end Addresses

/-- No placeholder of the path lacks its argument. -/
lemma operationUrl_eq {p : OperationParts} {baseUrl : String} (filled : p.Filled) :
    operationUrl baseUrl p.operation p.path = p.operation.filledUrl baseUrl := by
  unfold operationUrl Operation.filledUrl
  dsimp only
  rw [urlText_congr]
  intro name hn
  have placed : String.ofList name ∈ distinct (placeholders p.operation.path) :=
    mem_distinct.2 (List.mem_filterMap.2 ⟨_, hn, rfl⟩)
  rw [filled, ← List.map_prod_left_eq_zip, List.lookup_graph _ placed]
  rfl
/-! ### Functions -/

/-- The comment in front of a function. -/
def Emission.OperationParts.comment (p : OperationParts) : String :=
  let summary := p.operation.summary.getD ""
  if summary.isEmpty && !p.operation.deprecated then ""
  else "/**\n" ++ (if summary.isEmpty then "" else " * " ++ Text.commentText summary ++ "\n") ++
    (if p.operation.deprecated then " * @deprecated\n" else "") ++ " */\n"

/-- The function of an operation, word for word. -/
def Emission.OperationParts.functionText (p : OperationParts) (t : Target) : String :=
  p.comment ++ "export const " ++ p.functionName ++ " = async (" ++
    ", ".intercalate (p.arguments.map Argument.declaration) ++ "): Promise<" ++
    p.responseType.text ++ "> => \x7b\n  const url = `" ++
    p.operation.filledUrl t.baseUrl ++ "`" ++
    (if p.query.isSome then " + buildQuery(query)" else "") ++ ";\n  return " ++ p.call ++ ";\n\x7d;"

/-- The alias of a response, word for word. -/
def Emission.OperationParts.aliasText (p : OperationParts) : String :=
  "export type " ++ p.aliasName ++ " = " ++ p.responseType.text ++ ";"

variable {p : OperationParts}

lemma render_comment : (Piece.when (.either (.name "summary") (.name "deprecated"))
    [.text "/**\n",
     .when (.name "summary")
       [.text " * ", .hole (.filtered .comment (.name "summary")), .text "\n"] true,
     .when (.name "deprecated") [.text " * @deprecated\n"] true,
     .text " */\n"] true).render (p.functionContext t) = .ok p.comment := by
  have deprecated : (Expr.name "deprecated").eval (p.functionContext t) =
    .ok (.bool p.operation.deprecated) := rfl
  have summary : (Expr.name "summary").eval (p.functionContext t) =
    .ok (.ofText? p.operation.summary) := rfl
  have either : (Expr.either (.name "summary") (.name "deprecated")).eval (p.functionContext t) =
      .ok (if (Value.ofText? p.operation.summary).truthy then .ofText? p.operation.summary
        else .bool p.operation.deprecated) := by
    rw [Expr.eval, summary, deprecated]
    dsimp only [bind, Except.bind]
    split <;> rfl
  rw [render_when either]
  simp only [renderAll, render_when summary, render_when deprecated, render_literal]
  unfold OperationParts.comment
  cases hs : p.operation.summary with
  | none => cases p.operation.deprecated <;> rfl
  | some s =>
    have comment : (Expr.filtered .comment (.name "summary")).eval (p.functionContext t) =
        .ok (.str (Text.commentText s)) := by
      have found : valueOfName? (p.functionContext t) "summary" =
        some (.ofText? p.operation.summary) := rfl
      simp only [Expr.eval, found, hs]
      rfl
    have note : (Piece.hole (.filtered .comment (.name "summary"))).render (p.functionContext t) =
        .ok (Text.commentText s) := by
      simp only [Piece.render, comment, Functor.map, Except.map, Value.shown]
    by_cases empty : s.isEmpty
    · cases p.operation.deprecated <;>
        simp [Value.ofText?, Value.truthy, empty, bind, Except.bind, pure, Except.pure]
    · cases p.operation.deprecated <;>
        simp [Value.ofText?, Value.truthy, empty, note, bind, Except.bind, pure, Except.pure,
          String.append_assoc]

lemma render_function (filled : p.Filled) : (builtin .apiFunction).render (p.functionContext t) =
    .ok (p.functionText t ++ "\n") := by
  have run : (builtin .apiFunction).render (p.functionContext t) =
      renderAll (p.functionContext t) apiFunction := if_neg Bool.false_ne_true
  have name : (shown "name").render (p.functionContext t) = _ := render_shown rfl
  have arguments : (Piece.hole (.filtered (.join ", ") (.name "arguments"))).render
    (p.functionContext t) = _ := render_joined rfl
  have type : (shown "response_type").render (p.functionContext t) = _ := render_shown rfl
  have url : (shown "url").render (p.functionContext t) =
      .ok (p.operation.filledUrl t.baseUrl) := by
    rw [← operationUrl_eq filled]
    exact render_shown rfl
  have query : (Piece.hole (.choice (.text " + buildQuery(query)") (.name "has_query")
    (.text ""))).render (p.functionContext t) = _ := render_choice rfl
  have call : (shown "call").render (p.functionContext t) = _ := render_shown rfl
  rw [run, apiFunction]
  simp only [renderAll, render_comment, name, arguments, type, url, query, call, render_literal,
    bind, Except.bind, pure, Except.pure, OperationParts.functionText, String.append_empty,
    String.append_assoc]
  rfl

lemma render_alias : (builtin .typeAlias).render p.aliasContext = .ok (p.aliasText ++ "\n") := by
  have run : (builtin .typeAlias).render p.aliasContext = renderAll p.aliasContext typeAlias :=
    if_neg Bool.false_ne_true
  have name : (shown "name").render p.aliasContext = _ := render_shown rfl
  have type : (shown "type").render p.aliasContext = _ := render_shown rfl
  have none : (described "description").render p.aliasContext = .ok "" := rfl
  rw [run, typeAlias]
  simp only [renderAll, none, name, type, render_literal, bind, Except.bind, pure, Except.pure,
    OperationParts.aliasText, String.append_empty, String.append_assoc]
  rfl

/-- What is written of an operation is its function and its alias. -/
lemma texts_of_write (templates : c.templates = builtin) (filled : p.Filled) {o : ClientOperation}
    (h : p.write c t = .ok o) :
    o.function.content = p.functionText t ∧ o.alias_.content = p.aliasText := by
  have function : withoutLastLines (p.functionText t ++ "\n") = p.functionText t :=
    withoutLastLines_append _ (by decide)
  have alias_ : withoutLastLines (p.aliasText ++ "\n") = p.aliasText :=
    withoutLastLines_append _ (by decide)
  have becomes := becomes_of_write h
  obtain ⟨f, hf, function_eq⟩ := becomes.function
  obtain ⟨a, ha, alias_eq⟩ := becomes.alias_
  rw [templates, render_function filled] at hf
  rw [templates, render_alias] at ha
  obtain rfl := Except.ok.inj hf
  obtain rfl := Except.ok.inj ha
  rw [function_eq, alias_eq]
  exact ⟨function, alias_⟩

/-! ### The file -/

/-- The namespaces that a file in a directory imports, with the paths that they are imported from: the
shared schemas first, then those of the module. -/
def Emission.Target.importEntries (t : Target) (directory : String) (namespaces : List String) :
    List (String × String) :=
  (if namespaces.contains commonNamespace then
    [(commonNamespace, t.layout.schemaImport directory none)] else []) ++
  (if namespaces.contains t.namespace_ then
    [(t.namespace_, t.layout.schemaImport directory (some t.module))] else [])

lemma imports_eq {directory : String} {namespaces : List String} :
    t.imports directory namespaces =
      .list ((t.importEntries directory namespaces).map fun e => importEntry e.1 e.2) := by
  have entry (name path : String) :
      (if namespaces.contains name then [importEntry name path] else []) =
        (if namespaces.contains name then [(name, path)] else []).map fun e =>
          importEntry e.1 e.2 := by
    split <;> rfl
  unfold Target.importEntries
  rw [List.map_append, ← entry, ← entry]
  rfl

/-- The lines in front of the aliases and the functions of a module. -/
def apiHead (t : Target) (ops : List ClientOperation) : String :=
  let directory := t.layout.apisDirectory t.module
  banner ++ "\nimport \x7b http" ++ (if ops.any (·.usesQuery) then ", buildQuery" else "") ++
    " \x7d from \"" ++ t.layout.importFrom directory t.layout.httpClientFile ++ "\";\n" ++
    String.join ((t.importEntries directory (ops.flatMap (·.namespaces))).map fun e =>
      importLine "import type * as " e.1 e.2)

/-- What the template of a module's functions sees. -/
def apiContext (t : Target) (ops : List ClientOperation) : Scope :=
  let directory := t.layout.apisDirectory t.module
  [("banner", .str banner), ("uses_query", .bool (ops.any (·.usesQuery))),
   ("http_import", .str (t.layout.importFrom directory t.layout.httpClientFile)),
   ("imports", t.imports directory (ops.flatMap (·.namespaces))),
   ("response_types", .texts (ops.map (·.alias_.content))),
   ("functions", .texts (ops.map (·.function.content)))]

/-- The file of a module's functions has the aliases of all responses and then all functions, one
after another. -/
lemma apiFile_eq (templates : c.templates = builtin) : apiFile c t ops =
    .ok (apiHead t ops ++ spaced (ops.map (·.alias_.content)) ++
      spaced (ops.map (·.function.content))) := by
  have run : apiFile c t ops = renderAll (apiContext t ops) fileApi := by
    unfold apiFile
    rw [templates]
    exact if_neg Bool.false_ne_true
  have title : (shown "banner").render (apiContext t ops) = .ok banner := rfl
  have query : (Piece.hole (.choice (.text ", buildQuery") (.name "uses_query")
    (.text ""))).render (apiContext t ops) = _ := render_choice rfl
  have client : (shown "http_import").render (apiContext t ops) = .ok
      (t.layout.importFrom (t.layout.apisDirectory t.module) t.layout.httpClientFile) := rfl
  have lines : (imports "import type * as ").render (apiContext t ops) = _ :=
    render_imports (congrArg some imports_eq)
  have aliases : (Piece.each "declaration" (.name "response_types")
      [.text "\n", shown "declaration", .text "\n"] true).render (apiContext t ops) = _ :=
    render_spaced rfl rfl
  have functions : (Piece.each "function" (.name "functions")
      [.text "\n", shown "function", .text "\n"] true).render (apiContext t ops) = _ :=
    render_spaced rfl rfl
  rw [run, fileApi]
  simp only [renderAll, title, query, client, lines, aliases, functions, render_literal, bind,
    Except.bind, pure, Except.pure, apiHead, String.append_empty, String.append_assoc]

end ClientGen
