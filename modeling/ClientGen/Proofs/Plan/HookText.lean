import ClientGen.Proofs.Plan.ApiFile

/-!
# Cache keys and hooks

What the built-in templates make of an operation besides its function, word for word: the entry of its
cache key and its hook.
-/

namespace ClientGen

open Document Emission Output Template TypeScript

variable {c : Setting} {t : Target} {p : OperationParts} {scope : Scope}

/-! ### Cache keys -/

/-- The entry of a cache key, word for word. -/
def Emission.KeyEntry.text (e : KeyEntry) (module : String) : String :=
  "  " ++ e.name ++ ": (" ++ ", ".intercalate e.parameters ++ ") =>\n    [" ++
    jsonText (.str module) ++ ", " ++ jsonText (.str e.name) ++
    String.join (e.arguments.map (", " ++ ·)) ++ "] as const,\n"

/-- The cache keys of a module, word for word. -/
def keysText (t : Target) (ops : List ClientOperation) : String :=
  banner ++ "\n" ++ String.join ((t.importEntries t.keysDirectory
    (ops.flatMap (·.keyNamespaces))).map fun e => importLine "import type * as " e.1 e.2) ++
    "\nexport const " ++ t.keysName ++ " = \x7b\n  all: [" ++ jsonText (.str t.module) ++
    "] as const,\n" ++ String.join (ops.map fun o => o.keyEntry.text t.module) ++ "\x7d;\n"

/-- What the template of a module's cache keys sees. -/
def keysContext (t : Target) (ops : List ClientOperation) : Scope :=
  [("banner", .str banner),
   ("imports", t.imports t.keysDirectory (ops.flatMap (·.keyNamespaces))),
   ("keys_name", .str t.keysName), ("module_key", .str t.module),
   ("entries", .list (ops.map fun op => op.keyEntry.context))]

lemma render_keyEntry {e : KeyEntry} {last : Value}
    (module : valueOfName? scope "module_key" = some (.str t.module)) :
    renderAll (("entry", e.context) :: ("loop", last) :: scope)
      [.text "  ", .hole (.field (.name "entry") "name"), .text ": (",
       .hole (.filtered (.join ", ") (.field (.name "entry") "params")), .text ") =>\n    [",
       .hole (.filtered .json (.name "module_key")), .text ", ",
       .hole (.filtered .json (.field (.name "entry") "name")),
       .each "arg" (.field (.name "entry") "args") [.text ", ", shown "arg"] false,
       .text "] as const,\n"] = .ok (e.text t.module) := by
  generalize inner : ("entry", e.context) :: ("loop", last) :: scope = inside
  have field {key : String} {v : Value} (found : e.context.get? key = some v) :
      (Expr.field (.name "entry") key).eval inside = .ok v := by
    have entry : valueOfName? inside "entry" = some e.context := by
      rw [← inner]
      rfl
    simp only [Expr.eval, entry, found, bind, Except.bind]
  have outer : (Expr.name "module_key").eval inside = .ok (.str t.module) := by
    have same : valueOfName? inside "module_key" = valueOfName? scope "module_key" := by
      rw [← inner]
      rfl
    rw [Expr.eval, same, module]
  have name : (Expr.field (.name "entry") "name").eval inside = .ok (.str e.name) :=
    field lookup_record
  have params : (Expr.field (.name "entry") "params").eval inside = .ok (.texts e.parameters) :=
    field lookup_record
  have args : (Expr.field (.name "entry") "args").eval inside = .ok (.texts e.arguments) :=
    field lookup_record
  have arguments : (Piece.each "arg" (.field (.name "entry") "args")
      [.text ", ", shown "arg"] false).render inside =
        .ok (String.join (e.arguments.map (", " ++ ·))) := by
    refine render_items args fun s _ last => ?_
    have value : (shown "arg").render (("arg", .str s) :: ("loop", last) :: inside) = .ok s :=
      render_shown rfl
    simp only [renderAll, Piece.render, value, bind, Except.bind, pure, Except.pure,
      String.append_empty]
  simp only [renderAll, render_text name, render_texts params, render_json outer, render_json name,
    arguments, render_literal, bind, Except.bind, pure, Except.pure, KeyEntry.text,
    String.append_empty, String.append_assoc]

/-- The cache keys of a module are its entries, one after another. -/
lemma queryKeysFile_eq (templates : c.templates = builtin) {ops : List ClientOperation} :
    queryKeysFile c t ops = .ok (keysText t ops) := by
  have run : queryKeysFile c t ops = renderAll (keysContext t ops) queryKeys := by
    unfold queryKeysFile
    rw [templates]
    exact if_neg Bool.false_ne_true
  have title : (shown "banner").render (keysContext t ops) = _ := render_shown rfl
  have lines : (imports "import type * as ").render (keysContext t ops) = _ :=
    render_imports (congrArg some imports_eq)
  have name : (shown "keys_name").render (keysContext t ops) = _ := render_shown rfl
  have module : (Piece.hole (.filtered .json (.name "module_key"))).render (keysContext t ops) =
    _ := render_json rfl
  have entries : (Piece.each "entry" (.name "entries") _ true).render (keysContext t ops) = _ :=
    render_each rfl fun o _ last => render_keyEntry (t := t) (e := o.keyEntry) rfl
  rw [run, queryKeys]
  simp only [renderAll, title, lines, name, module, render_literal, entries, bind, Except.bind,
    pure, Except.pure, keysText, String.append_empty, String.append_assoc]

/-! ### Hooks -/

namespace Emission

/-- How the callback of a hook takes what the hook is triggered with: not at all, as its parameter, or
behind a key and in a record. -/
inductive Trigger
  | nothing
  | value (name : String)
  | keyed (key name : String)

namespace Trigger

/-- The parameters of the callback. -/
def text : Trigger → String
  | nothing => ""
  | value name => name
  | keyed key name => key ++ ", \x7b " ++ name ++ " \x7d"

/-- The name of what the hook is triggered with. -/
def names : Trigger → List String
  | nothing => []
  | value name => [name]
  | keyed _ name => [name]

end Trigger

/-- The names in a hook: its parameters in front of its settings, what it binds before it calls the
library, what it calls the cache keys with, if it does, and what its callback takes and calls the
function with. -/
structure HookCode where
  parameters : List Argument
  settings : String
  locals : List String
  keyArguments : Option (List String)
  trigger : Trigger
  arguments : List String

namespace HookCode

/-- The parameters of a hook, a line each. -/
def parameterLines (h : HookCode) : String :=
  String.join (h.parameters.map fun a => "  " ++ a.declaration ++ ",\n")

/-- The call of the cache keys. -/
def keyCall (h : HookCode) (keys function : String) : String :=
  keys ++ "." ++ function ++ "(" ++ ", ".intercalate (h.keyArguments.getD []) ++ ")"

/-- The callback, which calls the function. -/
def callback (h : HookCode) (function : String) : String :=
  "(" ++ h.trigger.text ++ ") => " ++ function ++ "(" ++ ", ".intercalate h.arguments ++ ")"

end HookCode

namespace OperationParts

/-- The names in a hook that asks. -/
def queryCode (p : OperationParts) (settings : String) : HookCode where
  parameters := p.keyArguments
  settings := settings
  locals := []
  keyArguments := some (p.keyArguments.map (·.name))
  trigger := .nothing
  arguments := p.keyArguments.map (·.name)

/-- The names in a hook that changes something, with React Query. -/
def reactQueryMutationCode (p : OperationParts) : HookCode where
  parameters := p.path
  settings := "options"
  locals := ["queryClient"]
  keyArguments := none
  trigger := (p.body.map fun body => .value body.name).getD .nothing
  arguments := p.path.map (·.name) ++ p.body.toList.map (·.name)

/-- The names in a hook that changes something, with SWR. -/
def swrMutationCode (p : OperationParts) : HookCode where
  parameters := p.path
  settings := "config"
  locals := []
  keyArguments := some (p.path.map (·.name))
  trigger := if p.body.isSome then .keyed "_key" "arg" else .nothing
  arguments := p.path.map (·.name) ++ p.body.toList.map fun _ => "arg"

/-- The names in the hook of an operation. -/
def hookCode (p : OperationParts) : HookLibrary → HookCode
  | .reactQuery =>
    if p.operation.method.isQuery then p.queryCode "options" else p.reactQueryMutationCode
  | .swr => if p.operation.method.isQuery then p.queryCode "config" else p.swrMutationCode

/-- The file of a hook up to its settings, word for word. -/
def hookHead (p : OperationParts) (t : Target) (opening : String) (h : HookCode) : String :=
  let directory := t.layout.hooksDirectory t.module
  banner ++ opening ++ p.functionName ++ " \x7d from \"" ++
    t.layout.importFrom directory (t.layout.apisDirectory t.module) ++ "\";\nimport \x7b " ++
    t.keysName ++ " \x7d from \"" ++
    t.layout.importFrom directory (t.layout.queryKeysFile t.module) ++ "\";\n" ++
    String.join ((t.importEntries directory p.namespaces).map fun e =>
      importLine "import type * as " e.1 e.2) ++
    "\nexport const " ++ p.hookName ++ " = (\n" ++ h.parameterLines

/-- The type of what a hook is triggered with. -/
def triggerType (p : OperationParts) : String :=
  (p.body.map (·.type.text)).getD "void"

/-- A hook that asks, with React Query. -/
def reactQueryQueryText (p : OperationParts) (t : Target) : String :=
  let h := p.queryCode "options"
  let type := p.responseType.text
  p.hookHead t (String.join
    ["\n", "import \x7b useQuery, type UseQueryOptions \x7d from \"@tanstack/react-query\";\n",
     "import \x7b "]) h ++
    "  options?: Omit<UseQueryOptions<" ++ type ++
    ", Error>, \"queryKey\" | \"queryFn\">,\n) =>\n  useQuery<" ++ type ++
    ", Error>(\x7b\n    queryKey: " ++ h.keyCall t.keysName p.functionName ++
    ",\n    queryFn: " ++ h.callback p.functionName ++ ",\n    ...options,\n  \x7d);\n"

/-- A hook that changes something, with React Query. -/
def reactQueryMutationText (p : OperationParts) (t : Target) : String :=
  let h := p.reactQueryMutationCode
  let type := p.responseType.text
  p.hookHead t (String.join
    ["\n",
     "import \x7b useMutation, useQueryClient, type UseMutationOptions \x7d from \"@tanstack/react-query\";\n",
     "import \x7b "]) h ++
    "  options?: Omit<UseMutationOptions<" ++ type ++ ", Error, " ++ p.triggerType ++
    String.join
      [">, \"mutationFn\">,\n", ") => \x7b\n", "  const queryClient = useQueryClient();\n",
       "  return useMutation<"] ++
    type ++ ", Error, " ++ p.triggerType ++ ">(\x7b\n    ...options,\n    mutationFn: " ++
    h.callback p.functionName ++
    String.join
      [",\n", "    onSuccess: (...callbackArgs) => \x7b\n",
       "      queryClient.invalidateQueries(\x7b queryKey: "] ++
    t.keysName ++
    String.join
      [".all \x7d);\n", "      return options?.onSuccess?.(...callbackArgs);\n", "    \x7d,\n",
       "  \x7d);\n", "\x7d;\n"]

/-- A hook that asks, with SWR. -/
def swrQueryText (p : OperationParts) (t : Target) : String :=
  let h := p.queryCode "config"
  let type := p.responseType.text
  p.hookHead t (String.join
    ["\n", "import useSWR, \x7b type SWRConfiguration \x7d from \"swr\";\n", "import \x7b "]) h ++
    "  config?: SWRConfiguration<" ++ type ++ ", Error>,\n) =>\n  useSWR<" ++ type ++
    ", Error>(\n    " ++ h.keyCall t.keysName p.functionName ++ ",\n    " ++
    h.callback p.functionName ++ ",\n    config,\n  );\n"

/-- A hook that changes something, with SWR. -/
def swrMutationText (p : OperationParts) (t : Target) : String :=
  let h := p.swrMutationCode
  let type := p.responseType.text
  p.hookHead t (String.join
    ["\n", "import useSWRMutation, \x7b type SWRMutationConfiguration \x7d from \"swr/mutation\";\n",
     "import \x7b "]) h ++
    "  config?: SWRMutationConfiguration<" ++ type ++ ", Error, readonly unknown[], " ++
    p.triggerType ++ ">,\n) =>\n  useSWRMutation<" ++ type ++ ", Error, readonly unknown[], " ++
    p.triggerType ++ ">(\n    " ++ h.keyCall t.keysName p.functionName ++ ",\n    " ++
    h.callback p.functionName ++ ",\n    config,\n  );\n"

/-- The file of the hook of an operation, word for word. -/
def hookText (p : OperationParts) (t : Target) : HookLibrary → String
  | .reactQuery =>
    if p.operation.method.isQuery then p.reactQueryQueryText t else p.reactQueryMutationText t
  | .swr => if p.operation.method.isQuery then p.swrQueryText t else p.swrMutationText t

end OperationParts

end Emission

/-- What the template of every hook shows. -/
def sharedTexts (p : OperationParts) (t : Target) : List (String × String) :=
  let directory := t.layout.hooksDirectory t.module
  [("banner", banner), ("function_name", p.functionName), ("hook_name", p.hookName),
   ("api_import", t.layout.importFrom directory (t.layout.apisDirectory t.module)),
   ("keys_name", t.keysName),
   ("keys_import", t.layout.importFrom directory (t.layout.queryKeysFile t.module)),
   ("response_type", p.responseType.text)]

section Render

variable (own : Scope)

lemma render_shared : ∀ e ∈ sharedTexts p t,
    (shown e.1).render (p.sharedContext t ++ own) = .ok e.2 := by
  simp only [sharedTexts, List.forall_mem_cons]
  exact ⟨render_shown rfl, render_shown rfl, render_shown rfl, render_shown rfl, render_shown rfl,
    render_shown rfl, render_shown rfl, by simp⟩

lemma render_hookImports : (imports "import type * as ").render (p.sharedContext t ++ own) =
    .ok (String.join ((t.importEntries (t.layout.hooksDirectory t.module) p.namespaces).map fun e =>
      importLine "import type * as " e.1 e.2)) :=
  render_imports (congrArg some imports_eq)

lemma render_parameters {h : HookCode}
    (params : own.lookup "params" = some (.texts (h.parameters.map Argument.declaration))) :
    (Piece.each "param" (.name "params") [.text "  ", shown "param", .text ",\n"] true).render
      (p.sharedContext t ++ own) = .ok h.parameterLines := by
  have found : valueOfName? (p.sharedContext t ++ own) "params" =
      some (.list (h.parameters.map fun a => .str a.declaration)) := by
    have behind : (p.sharedContext t ++ own).lookup "params" = own.lookup "params" := rfl
    have values : Value.texts (h.parameters.map Argument.declaration) =
        .list (h.parameters.map fun a => .str a.declaration) := by
      rw [Value.texts, List.map_map]
      rfl
    exact valueOfName?_of_lookup rfl (by rw [behind, params, values])
  refine render_each found fun a _ last => ?_
  have value : (shown "param").render
      (("param", .str a.declaration) :: ("loop", last) :: (p.sharedContext t ++ own)) =
        .ok a.declaration := render_shown rfl
  simp only [renderAll, Piece.render, value, bind, Except.bind, pure, Except.pure,
    String.append_empty, String.append_assoc]

/-- The file of every hook starts in the same way. -/
lemma renderAll_hookHead {opening tail : String} {h : HookCode} {rest : List Piece}
    (params : own.lookup "params" = some (.texts (h.parameters.map Argument.declaration)))
    (others : renderAll (p.sharedContext t ++ own) rest = .ok tail) :
    renderAll (p.sharedContext t ++ own)
      (shown "banner" :: .text opening :: shown "function_name" :: .text " \x7d from \"" ::
       shown "api_import" :: .text "\";\nimport \x7b " :: shown "keys_name" ::
       .text " \x7d from \"" :: shown "keys_import" :: .text "\";\n" ::
       imports "import type * as " :: .text "\nexport const " :: shown "hook_name" ::
       .text " = (\n" ::
       .each "param" (.name "params") [.text "  ", shown "param", .text ",\n"] true :: rest) =
      .ok (p.hookHead t opening h ++ tail) := by
  have shared := render_shared (p := p) (t := t) own
  simp only [sharedTexts, List.forall_mem_cons] at shared
  simp only [renderAll, shared, render_hookImports, render_parameters own params, render_literal,
    others, bind, Except.bind, pure, Except.pure, OperationParts.hookHead, String.append_assoc]

end Render

/-- What the template of a hook that asks sees beyond the shared part. -/
def queryContext (p : OperationParts) : Scope :=
  [("params", .texts (p.keyArguments.map Argument.declaration)),
   ("args", .texts (p.keyArguments.map (·.name)))]

/-- What a template sees beyond that part for a hook that changes something. -/
def mutationContext (p : OperationParts) : Scope :=
  [("params", .texts (p.path.map Argument.declaration)), ("variables_type", .str p.triggerType)]

/-- What that of React Query sees in addition. -/
def reactQueryMutationContext (p : OperationParts) : Scope :=
  mutationContext p ++ [("variables_param", .str p.reactQueryMutationCode.trigger.text),
    ("args", .texts p.reactQueryMutationCode.arguments)]

/-- What that of SWR sees in addition. -/
def swrMutationContext (p : OperationParts) : Scope :=
  mutationContext p ++ [("key_args", .texts (p.path.map (·.name))),
    ("swr_variables_param", .str p.swrMutationCode.trigger.text),
    ("args", .texts p.swrMutationCode.arguments)]

section Templates

variable (p) (t)

lemma render_reactQueryQuery :
    renderAll (p.sharedContext t ++ queryContext p) reactQueryQuery =
      .ok (p.reactQueryQueryText t) := by
  have shared := render_shared (p := p) (t := t) (queryContext p)
  simp only [sharedTexts, List.forall_mem_cons] at shared
  have args : (Piece.hole (.filtered (.join ", ") (.name "args"))).render
    (p.sharedContext t ++ queryContext p) = _ := render_joined rfl
  simp only [OperationParts.reactQueryQueryText, String.append_assoc]
  refine renderAll_hookHead (queryContext p) rfl ?_
  simp only [renderAll, shared, args, render_literal, bind, Except.bind, pure, Except.pure,
    HookCode.keyCall, HookCode.callback, String.append_empty, String.append_assoc]
  rfl

lemma render_swrQuery :
    renderAll (p.sharedContext t ++ queryContext p) swrQuery = .ok (p.swrQueryText t) := by
  have shared := render_shared (p := p) (t := t) (queryContext p)
  simp only [sharedTexts, List.forall_mem_cons] at shared
  have args : (Piece.hole (.filtered (.join ", ") (.name "args"))).render
    (p.sharedContext t ++ queryContext p) = _ := render_joined rfl
  simp only [OperationParts.swrQueryText, String.append_assoc]
  refine renderAll_hookHead (queryContext p) rfl ?_
  simp only [renderAll, shared, args, render_literal, bind, Except.bind, pure, Except.pure,
    HookCode.keyCall, HookCode.callback, String.append_empty, String.append_assoc]
  rfl

lemma render_reactQueryMutation :
    renderAll (p.sharedContext t ++ reactQueryMutationContext p) reactQueryMutation =
      .ok (p.reactQueryMutationText t) := by
  have shared := render_shared (p := p) (t := t) (reactQueryMutationContext p)
  simp only [sharedTexts, List.forall_mem_cons] at shared
  have type : (shown "variables_type").render
    (p.sharedContext t ++ reactQueryMutationContext p) = _ := render_shown rfl
  have trigger : (shown "variables_param").render
    (p.sharedContext t ++ reactQueryMutationContext p) = _ := render_shown rfl
  have args : (Piece.hole (.filtered (.join ", ") (.name "args"))).render
    (p.sharedContext t ++ reactQueryMutationContext p) = _ := render_joined rfl
  simp only [OperationParts.reactQueryMutationText, String.append_assoc]
  refine renderAll_hookHead (reactQueryMutationContext p) rfl ?_
  simp only [renderAll, shared, type, trigger, args, render_literal, bind, Except.bind, pure,
    Except.pure, HookCode.callback, String.append_empty, String.append_assoc]
  rfl

lemma render_swrMutation :
    renderAll (p.sharedContext t ++ swrMutationContext p) swrMutation =
      .ok (p.swrMutationText t) := by
  have shared := render_shared (p := p) (t := t) (swrMutationContext p)
  simp only [sharedTexts, List.forall_mem_cons] at shared
  have type : (shown "variables_type").render (p.sharedContext t ++ swrMutationContext p) = _ :=
    render_shown rfl
  have keyArgs : (Piece.hole (.filtered (.join ", ") (.name "key_args"))).render
    (p.sharedContext t ++ swrMutationContext p) = _ := render_joined rfl
  have trigger : (shown "swr_variables_param").render
    (p.sharedContext t ++ swrMutationContext p) = _ := render_shown rfl
  have args : (Piece.hole (.filtered (.join ", ") (.name "args"))).render
    (p.sharedContext t ++ swrMutationContext p) = _ := render_joined rfl
  simp only [OperationParts.swrMutationText, String.append_assoc]
  refine renderAll_hookHead (swrMutationContext p) rfl ?_
  simp only [renderAll, shared, type, keyArgs, trigger, args, render_literal, bind, Except.bind,
    pure, Except.pure, HookCode.keyCall, HookCode.callback, String.append_empty,
    String.append_assoc]
  rfl

end Templates

lemma ownContext_of_query (query : p.operation.method.isQuery = true) :
    p.ownContext .reactQuery = (.reactQueryQuery, queryContext p) ∧
      p.ownContext .swr = (.swrQuery, queryContext p) := by
  simp only [OperationParts.ownContext, query, if_true]
  exact ⟨rfl, rfl⟩

lemma ownContext_of_mutation (mutation : p.operation.method.isQuery = false) :
    p.ownContext .reactQuery = (.reactQueryMutation, reactQueryMutationContext p) ∧
      p.ownContext .swr = (.swrMutation, swrMutationContext p) := by
  simp only [OperationParts.ownContext, mutation, Bool.false_eq_true, if_false,
    reactQueryMutationContext, swrMutationContext, mutationContext, OperationParts.triggerType,
    OperationParts.reactQueryMutationCode, OperationParts.swrMutationCode]
  cases p.body <;> exact ⟨rfl, rfl⟩

/-- The hook of an operation is its text. -/
lemma writeHook_eq (templates : c.templates = builtin) (library : HookLibrary) :
    p.writeHook c t library =
      .ok { name := p.hookName, kind := .hook, content := p.hookText t library } := by
  have run {id : TemplateId} {own : Scope} {text : String}
      (context : p.ownContext library = (id, own)) (free : own.lookup selfWord = none)
      (rendered : renderAll (p.sharedContext t ++ own) (builtin id) = .ok text) :
      p.writeHook c t library = .ok { name := p.hookName, kind := .hook, content := text } := by
    have behind : (p.sharedContext t ++ own).lookup selfWord = own.lookup selfWord := rfl
    unfold OperationParts.writeHook
    rw [context, templates]
    dsimp only
    rw [ClientGen.Template.render, behind, free, rendered]
    rfl
  cases query : p.operation.method.isQuery with
  | true =>
    obtain ⟨reactQuery, swr⟩ := ownContext_of_query query
    cases library with
    | reactQuery =>
      rw [OperationParts.hookText, if_pos query]
      exact run reactQuery rfl (render_reactQueryQuery t p)
    | swr =>
      rw [OperationParts.hookText, if_pos query]
      exact run swr rfl (render_swrQuery t p)
  | false =>
    obtain ⟨reactQuery, swr⟩ := ownContext_of_mutation query
    cases library with
    | reactQuery =>
      rw [OperationParts.hookText, if_neg (by simp [query])]
      exact run reactQuery rfl (render_reactQueryMutation t p)
    | swr =>
      rw [OperationParts.hookText, if_neg (by simp [query])]
      exact run swr rfl (render_swrMutation t p)

end ClientGen
