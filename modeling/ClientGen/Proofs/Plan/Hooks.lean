import ClientGen.Proofs.Plan.ArgumentNames
import ClientGen.Proofs.Plan.HookText

/-!
# What hooks call

The hook of an operation calls the function and the cache keys with its own parameters, one for one,
and the function with what it is triggered with in the place of the body. These are names, and what a
name stands for depends on what else the hook binds: where a name that it uses is bound again on the
way, it calls something else or passes another value.
-/

namespace ClientGen.Emission

open Api Naming Output Template TypeScript

variable {t : Target} {p : OperationParts} {h : HookCode} {library : HookLibrary}

/-! ### What names stand for -/

/-- What a name in a hook stands for. -/
inductive Meaning
  | trigger
  | parameter (a : Argument)
  | function
  | keys
  | other

/-- The names that a scope binds, with what they are bound to. -/
abbrev Bindings := List (String × Meaning)

/-- A name stands for what it is bound to in the innermost scope that binds it, unless that binds it
more than once. -/
def Denotes : List Bindings → String → Meaning → Prop
  | [], _, _ => False
  | scope :: outer, x, m =>
    scope.filter (·.1 == x) = [(x, m)] ∨ (x ∉ scope.map Prod.fst ∧ Denotes outer x m)

section Denoting

variable {scope front back : Bindings} {outer : List Bindings} {x : String} {m : Meaning}

lemma filter_bindings_eq_nil : scope.filter (·.1 == x) = [] ↔ x ∉ scope.map Prod.fst := by
  rw [List.filter_eq_nil_iff]
  constructor
  · intro none bound
    obtain ⟨e, he, rfl⟩ := List.mem_map.1 bound
    exact none e he (beq_self_eq_true e.1)
  · intro free e he same
    exact free (eq_of_beq same ▸ List.mem_map_of_mem he)

/-- The binding of a name that is bound once is the only one. -/
lemma filter_bindings_iff : (front ++ (x, m) :: back).filter (·.1 == x) = [(x, m)] ↔
    x ∉ front.map Prod.fst ∧ x ∉ back.map Prod.fst := by
  have here : ((x, m) :: back).filter (·.1 == x) = (x, m) :: back.filter (·.1 == x) :=
    List.filter_cons_of_pos (beq_self_eq_true x)
  rw [← filter_bindings_eq_nil, ← filter_bindings_eq_nil, List.filter_append, here]
  constructor
  · intro same
    have length := congrArg List.length same
    simp only [List.length_append, List.length_cons, List.length_nil] at length
    exact ⟨List.eq_nil_of_length_eq_zero (by omega), List.eq_nil_of_length_eq_zero (by omega)⟩
  · rintro ⟨hf, hb⟩
    rw [hf, hb, List.nil_append]

/-- A name that a scope binds stands for that or for nothing. -/
lemma denotes_here : Denotes ((front ++ (x, m) :: back) :: outer) x m ↔
    x ∉ front.map Prod.fst ∧ x ∉ back.map Prod.fst := by
  rw [Denotes, filter_bindings_iff]
  simp

/-- What a scope binds nothing to is bound outside of it. -/
lemma denotes_outside (none : ∀ e ∈ scope, e.2 ≠ m) :
    Denotes (scope :: outer) x m ↔ x ∉ scope.map Prod.fst ∧ Denotes outer x m := by
  rw [Denotes, or_iff_right]
  intro same
  have member : (x, m) ∈ scope := List.mem_of_mem_filter (same ▸ List.mem_singleton_self (x, m))
  exact none _ member rfl

end Denoting

/-! ### The scopes of a hook -/

/-- What the callback of a hook binds. -/
def Trigger.bindings : Trigger → Bindings
  | nothing => []
  | value name => [(name, .trigger)]
  | keyed key name => [(key, .other), (name, .trigger)]

namespace HookCode

/-- What the parameters and the settings of a hook bind. -/
def parameterScope (h : HookCode) : Bindings :=
  h.parameters.map (fun a => (a.name, .parameter a)) ++ [(h.settings, .other)]

/-- The scopes in a hook, inside of a file. -/
def scopes (h : HookCode) (file : Bindings) : List Bindings :=
  [h.locals.map (·, .other), h.parameterScope, file]

/-- The scopes in the callback of a hook. -/
def callbackScopes (h : HookCode) (file : Bindings) : List Bindings :=
  h.trigger.bindings :: h.scopes file

/-- The names that a hook binds around its callback. -/
def names (h : HookCode) : List String :=
  h.locals ++ (h.parameters.map (·.name) ++ [h.settings])

/-- The names that a callback binds. -/
def callbackNames (h : HookCode) : List String :=
  h.trigger.bindings.map Prod.fst

variable {file : Bindings} {x : String} {m : Meaning}

lemma map_fst_parameterScope :
    h.parameterScope.map Prod.fst = h.parameters.map (·.name) ++ [h.settings] := by
  simp [parameterScope]

/-- Apart from what it is triggered with, what a callback refers to is bound around it. -/
lemma denotes_callback (given : m ≠ .trigger) (meant : m ≠ .other) :
    Denotes (h.callbackScopes file) x m ↔
      x ∉ h.callbackNames ∧ Denotes (h.scopes file) x m := by
  refine denotes_outside fun e he => ?_
  unfold Trigger.bindings at he
  split at he
  · simp at he
  · obtain rfl := List.mem_singleton.1 he
    exact Ne.symm given
  · simp only [List.mem_cons, List.not_mem_nil, or_false] at he
    rcases he with rfl | rfl
    · exact Ne.symm meant
    · exact Ne.symm given

lemma denotes_local (meant : m ≠ .other) : Denotes (h.scopes file) x m ↔
    x ∉ h.locals ∧ Denotes [h.parameterScope, file] x m := by
  have names : (h.locals.map fun x => (x, Meaning.other)).map Prod.fst = h.locals := by
    rw [List.map_map]
    exact List.map_id'' (fun _ => rfl) _
  rw [scopes, denotes_outside, names]
  intro e he
  obtain ⟨_, -, rfl⟩ := List.mem_map.1 he
  exact Ne.symm meant

/-- What is bound outside of a hook. -/
lemma denotes_file (meant : m ≠ .other) (foreign : ∀ a, m ≠ .parameter a) :
    Denotes (h.scopes file) x m ↔ x ∉ h.names ∧ Denotes [file] x m := by
  have none : ∀ e ∈ h.parameterScope, e.2 ≠ m := by
    refine List.forall_mem_append.2 ⟨fun e he => ?_, by simpa using Ne.symm meant⟩
    obtain ⟨a, -, rfl⟩ := List.mem_map.1 he
    exact Ne.symm (foreign a)
  rw [denotes_local meant, denotes_outside none, map_fst_parameterScope, ← and_assoc, ← not_or,
    ← List.mem_append, names]

/-- The names of what a hook takes are distinct if each of them is bound once. -/
lemma nodup_names_iff : (∀ a ∈ h.parameters,
      h.parameterScope.filter (·.1 == a.name) = [(a.name, .parameter a)]) ↔
    (h.parameters.map (·.name) ++ [h.settings]).Nodup := by
  constructor
  · intro once
    rw [← map_fst_parameterScope, List.nodup_iff_count_le_one]
    intro x
    have length : (h.parameterScope.map Prod.fst).count x =
        (h.parameterScope.filter (·.1 == x)).length := by
      rw [List.count_eq_countP, List.countP_map, List.countP_eq_length_filter]
      rfl
    by_cases bound : ∃ a ∈ h.parameters, a.name = x
    · obtain ⟨a, ha, rfl⟩ := bound
      rw [length, once a ha]
      simp
    · have free : x ∉ h.parameters.map (·.name) := fun hx => bound (List.mem_map.1 hx)
      rw [map_fst_parameterScope, List.count_append, List.count_eq_zero_of_not_mem free, Nat.zero_add]
      exact List.count_le_length
  · intro nodup a ha
    obtain ⟨front, back, split⟩ := List.append_of_mem ha
    rw [split, List.map_append, List.map_cons, List.append_assoc, List.cons_append] at nodup
    have apart := (List.nodup_cons.1 (List.nodup_middle.1 nodup)).1
    rw [parameterScope, split, List.map_append, List.map_cons, List.append_assoc, List.cons_append,
      filter_bindings_iff]
    simpa using apart

/-- The parameters of a hook are what their names stand for if these are distinct and not bound again
inside. -/
lemma denotes_parameters (foreign : ∀ e ∈ file, ∀ a, e.2 ≠ .parameter a) :
    (∀ a ∈ h.parameters, Denotes (h.scopes file) a.name (.parameter a)) ↔
      (h.parameters.map (·.name) ++ [h.settings]).Nodup ∧ ∀ a ∈ h.parameters, a.name ∉ h.locals := by
  have each (a : Argument) : Denotes (h.scopes file) a.name (.parameter a) ↔ a.name ∉ h.locals ∧
      h.parameterScope.filter (·.1 == a.name) = [(a.name, .parameter a)] := by
    rw [denotes_local (by simp), Denotes, or_iff_left]
    rintro ⟨-, outside⟩
    rw [denotes_outside fun e he => foreign e he a] at outside
    exact outside.2
  simp only [each, forall_and, ← nodup_names_iff]
  tauto

end HookCode

/-! ### What a hook passes -/

/-- A hook passes its own parameters, those of the cache keys, and in the place of the body what it is
triggered with. -/
structure HookCode.Passes (h : HookCode) (p : OperationParts) : Prop where
  arguments : h.arguments = h.parameters.map (·.name) ++ h.trigger.names
  declared : p.arguments = h.parameters ++ p.body.toList
  keyed : p.keyArguments = h.parameters
  keyArguments : ∀ names ∈ h.keyArguments, names = h.parameters.map (·.name)
  triggered : List.Forall₂ (fun x (_ : Argument) => h.trigger.names = [x] ∧
    ∀ outer, Denotes (h.trigger.bindings :: outer) x .trigger) h.trigger.names p.body.toList

lemma queryCode_passes (none : p.body = none) (settings : String) :
    (p.queryCode settings).Passes p where
  arguments := by simp [OperationParts.queryCode, Trigger.names]
  declared := by
    simp [OperationParts.arguments, OperationParts.queryCode, OperationParts.keyArguments, none]
  keyed := rfl
  keyArguments := by simp [OperationParts.queryCode]
  triggered := by simp [OperationParts.queryCode, Trigger.names, none]

lemma reactQueryMutationCode_passes (none : p.query = none) : p.reactQueryMutationCode.Passes p where
  arguments := by
    cases body : p.body <;> simp [OperationParts.reactQueryMutationCode, Trigger.names, body]
  declared := by
    simp [OperationParts.arguments, OperationParts.reactQueryMutationCode, none]
  keyed := by simp [OperationParts.keyArguments, OperationParts.reactQueryMutationCode, none]
  keyArguments := by simp [OperationParts.reactQueryMutationCode]
  triggered := by
    cases body : p.body with
    | none => simp [OperationParts.reactQueryMutationCode, Trigger.names, body]
    | some b =>
      simp [OperationParts.reactQueryMutationCode, Trigger.names, Trigger.bindings, body, Denotes]

lemma swrMutationCode_passes (none : p.query = none) : p.swrMutationCode.Passes p where
  arguments := by
    cases body : p.body <;> simp [OperationParts.swrMutationCode, Trigger.names, body]
  declared := by
    simp [OperationParts.arguments, OperationParts.swrMutationCode, none]
  keyed := by simp [OperationParts.keyArguments, OperationParts.swrMutationCode, none]
  keyArguments := by simp [OperationParts.swrMutationCode]
  triggered := by
    cases body : p.body with
    | none => simp [OperationParts.swrMutationCode, Trigger.names, body]
    | some b =>
      simp [OperationParts.swrMutationCode, Trigger.names, Trigger.bindings, body, Denotes]

lemma OperationParts.Placed.none (placed : p.Placed) :
    (p.operation.method.isQuery = true → p.body = none) ∧
      (p.operation.method.isQuery = false → p.query = none) := by
  constructor
  · intro asks
    refine Option.eq_none_iff_forall_not_mem.2 fun a ha => ?_
    have changes := (placed.body a ha).2.2.2
    rw [asks] at changes
    cases changes
  · intro changes
    refine Option.eq_none_iff_forall_not_mem.2 fun a ha => ?_
    have asks := (placed.query a ha).2.2
    rw [changes] at asks
    cases asks

lemma hookCode_passes (placed : p.Placed) (library : HookLibrary) :
    (p.hookCode library).Passes p := by
  obtain ⟨body, query⟩ := placed.none
  cases asks : p.operation.method.isQuery with
  | true =>
    cases library with
    | reactQuery =>
      rw [OperationParts.hookCode, if_pos asks]
      exact queryCode_passes (body asks) _
    | swr =>
      rw [OperationParts.hookCode, if_pos asks]
      exact queryCode_passes (body asks) _
  | false =>
    cases library with
    | reactQuery =>
      rw [OperationParts.hookCode, if_neg (by simp [asks])]
      exact reactQueryMutationCode_passes (query asks)
    | swr =>
      rw [OperationParts.hookCode, if_neg (by simp [asks])]
      exact swrMutationCode_passes (query asks)

lemma forall₂_append_iff {R : String → Argument → Prop} {xs : List String} {as : List Argument} :
    ∀ params : List Argument, List.Forall₂ R (params.map (·.name) ++ xs) (params ++ as) ↔
      (∀ a ∈ params, R a.name a) ∧ List.Forall₂ R xs as
  | [] => by simp
  | a :: rest => by
    rw [List.map_cons, List.cons_append, List.cons_append, List.forall₂_cons,
      forall₂_append_iff rest, List.forall_mem_cons, and_assoc]

namespace OperationParts

lemma Placed.place_ne (placed : p.Placed) (passes : h.Passes p) :
    ∀ a ∈ h.parameters, a.place ≠ .body := by
  intro a ha
  rw [← passes.keyed] at ha
  rcases List.mem_append.1 ha with ha | ha
  · rw [(placed.path a ha).2]
    decide
  · rw [(placed.query a (Option.mem_toList.1 ha)).2.1]
    decide

/-- What comes true of parameters and of what a hook is triggered with comes true of all that it
passes. -/
lemma forall₂_passed_iff (passes : h.Passes p) {R : String → Argument → Prop}
    (triggered : ∀ b ∈ p.body, ∀ x, h.trigger.names = [x] →
      (∀ outer, Denotes (h.trigger.bindings :: outer) x .trigger) → R x b) :
    List.Forall₂ R h.arguments p.arguments ↔ ∀ a ∈ h.parameters, R a.name a := by
  rw [passes.arguments, passes.declared, forall₂_append_iff, and_iff_left]
  have each := passes.triggered
  cases body : p.body with
  | none =>
    rw [body] at each
    simpa using each
  | some b =>
    rw [body, Option.toList_some] at each
    obtain ⟨x, _, ⟨only, denotes⟩, -, -⟩ := List.forall₂_cons_right_iff.1 each
    rw [Option.toList_some, only]
    exact .cons (triggered b body x only denotes) .nil

/-! ### Agreement -/

/-- The hook passes to the function what this declares, one for one: its own parameters, declared in
the same way, and for the body what it is triggered with. It passes to the cache keys what these
declare, and no argument that must be given follows one that need not. -/
structure HookAgrees (p : OperationParts) (library : HookLibrary) : Prop where
  passed : List.Forall₂ (fun x a =>
    if a.place = .body then (p.hookCode library).trigger.names = [x]
    else x = a.name ∧ a ∈ (p.hookCode library).parameters) (p.hookCode library).arguments p.arguments
  keyed : ∀ names ∈ (p.hookCode library).keyArguments, names = p.keyEntry.arguments ∧
    (p.hookCode library).parameters.map Argument.declaration = p.keyEntry.parameters
  ordered : p.arguments.Pairwise fun a b => b.required = true → a.required = true

/-- The lists of a hook agree with those of the function and the cache key. -/
lemma Placed.hookAgrees (placed : p.Placed) (library : HookLibrary) : p.HookAgrees library where
  passed := by
    have passes := hookCode_passes placed library
    refine (forall₂_passed_iff passes fun b hb x only _ => ?_).2 fun a ha => ?_
    · rwa [if_pos (placed.body b hb).2.2.1]
    · rw [if_neg (placed.place_ne passes a ha)]
      exact ⟨rfl, ha⟩
  keyed names hn := by
    have passes := hookCode_passes placed library
    rw [passes.keyArguments names hn, ← passes.keyed]
    exact ⟨rfl, rfl⟩
  ordered := by
    have given (a : Argument) (ha : a ∈ p.path ++ p.body.toList) : a.required = true := by
      rcases List.mem_append.1 ha with ha | ha
      · exact (placed.path a ha).1
      · exact (placed.body a (Option.mem_toList.1 ha)).2.1
    refine List.pairwise_append.2 ⟨?_, ?_, fun a ha _ _ _ => given a ha⟩
    · exact List.pairwise_of_forall_mem_list fun a ha _ _ _ => given a ha
    · cases p.query <;> simp

/-! ### Names that are kept apart -/

/-- The names that the file of a hook imports from the library. -/
def libraryNames (p : OperationParts) : HookLibrary → List String
  | .reactQuery =>
    if p.operation.method.isQuery then ["useQuery", "UseQueryOptions"]
    else ["useMutation", "useQueryClient", "UseMutationOptions"]
  | .swr =>
    if p.operation.method.isQuery then ["useSWR", "SWRConfiguration"]
    else ["useSWRMutation", "SWRMutationConfiguration"]

/-- The names that the file of a hook binds besides those of the function and the cache keys. -/
def fileNames (p : OperationParts) (t : Target) (library : HookLibrary) : List String :=
  p.hookName :: (p.libraryNames library ++
    (t.importEntries (t.layout.hooksDirectory t.module) p.namespaces).map Prod.fst)

/-- What the file of a hook binds outside of the hook. -/
def fileScope (p : OperationParts) (t : Target) (library : HookLibrary) : Bindings :=
  (p.functionName, .function) :: (t.keysName, .keys) :: (p.fileNames t library).map (·, .other)

/-- The hook calls the function and the cache keys, and it passes its parameters and what it is
triggered with. -/
structure HookRight (p : OperationParts) (t : Target) (library : HookLibrary) : Prop where
  function : Denotes ((p.hookCode library).callbackScopes (p.fileScope t library)) p.functionName
    .function
  passed : List.Forall₂ (fun x a =>
    Denotes ((p.hookCode library).callbackScopes (p.fileScope t library)) x
      (if a.place = .body then .trigger else .parameter a)) (p.hookCode library).arguments p.arguments
  keys : ∀ names ∈ (p.hookCode library).keyArguments,
    Denotes ((p.hookCode library).scopes (p.fileScope t library)) t.keysName .keys ∧
      List.Forall₂ (fun x a =>
        Denotes ((p.hookCode library).scopes (p.fileScope t library)) x (.parameter a))
        names p.keyArguments

/-- The names that the hook uses are kept apart from the others that are bound where it uses them. -/
structure HookApart (p : OperationParts) (t : Target) (library : HookLibrary) : Prop where
  parameters :
    ((p.hookCode library).parameters.map (·.name) ++ [(p.hookCode library).settings]).Nodup
  inside : ∀ a ∈ (p.hookCode library).parameters,
    a.name ∉ (p.hookCode library).locals ∧ a.name ∉ (p.hookCode library).callbackNames
  function : p.functionName ∉ (p.hookCode library).callbackNames ∧
    p.functionName ∉ (p.hookCode library).names ∧
      p.functionName ∉ t.keysName :: p.fileNames t library
  keys : (p.hookCode library).keyArguments.isSome = true →
    t.keysName ∉ (p.hookCode library).names ∧
      t.keysName ∉ p.functionName :: p.fileNames t library

lemma foreign_fileScope (p : OperationParts) (t : Target) (library : HookLibrary) :
    ∀ e ∈ p.fileScope t library, ∀ a, e.2 ≠ .parameter a := by
  simp [fileScope]

lemma denotes_function :
    Denotes ((p.hookCode library).callbackScopes (p.fileScope t library)) p.functionName .function ↔
      p.functionName ∉ (p.hookCode library).callbackNames ∧
        p.functionName ∉ (p.hookCode library).names ∧
          p.functionName ∉ t.keysName :: p.fileNames t library := by
  have scope : Denotes [[] ++ (p.functionName, .function) :: ((t.keysName, .keys) ::
    (p.fileNames t library).map (·, .other))] p.functionName .function ↔ _ := denotes_here
  have file : Denotes [p.fileScope t library] p.functionName .function ↔
      p.functionName ∉ t.keysName :: p.fileNames t library := by
    simpa [fileScope] using scope
  rw [HookCode.denotes_callback (by simp) (by simp), HookCode.denotes_file (by simp) (by simp), file]

lemma denotes_keys :
    Denotes ((p.hookCode library).scopes (p.fileScope t library)) t.keysName .keys ↔
      t.keysName ∉ (p.hookCode library).names ∧
        t.keysName ∉ p.functionName :: p.fileNames t library := by
  have scope : Denotes [[(p.functionName, .function)] ++ (t.keysName, .keys) ::
    (p.fileNames t library).map (·, .other)] t.keysName .keys ↔ _ := denotes_here
  have file : Denotes [p.fileScope t library] t.keysName .keys ↔
      t.keysName ∉ p.functionName :: p.fileNames t library := by
    simpa [fileScope] using scope
  rw [HookCode.denotes_file (by simp) (by simp), file]

/-- What a hook passes is right if its parameters are what their names stand for in the callback. -/
lemma Placed.denotes_passed (placed : p.Placed) :
    List.Forall₂ (fun x a =>
      Denotes ((p.hookCode library).callbackScopes (p.fileScope t library)) x
        (if a.place = .body then .trigger else .parameter a)) (p.hookCode library).arguments
        p.arguments ↔
      ∀ a ∈ (p.hookCode library).parameters, a.name ∉ (p.hookCode library).callbackNames ∧
        Denotes ((p.hookCode library).scopes (p.fileScope t library)) a.name (.parameter a) := by
  have passes := hookCode_passes placed library
  rw [forall₂_passed_iff passes]
  · refine forall₂_congr fun a ha => ?_
    rw [if_neg (placed.place_ne passes a ha), HookCode.denotes_callback (by simp) (by simp)]
  · intro b hb x _ denotes
    rw [if_pos (placed.body b hb).2.2.1]
    exact denotes _

/-- What a hook calls and passes is right exactly if its names are kept apart. -/
lemma Placed.hookRight_iff (placed : p.Placed) :
    p.HookRight t library ↔ p.HookApart t library := by
  have passes := hookCode_passes placed library
  have parameters := HookCode.denotes_parameters (h := p.hookCode library)
    (foreign_fileScope p t library)
  constructor
  · rintro ⟨hf, hp, hk⟩
    have own := placed.denotes_passed.1 hp
    obtain ⟨nodup, apart⟩ := parameters.1 fun a ha => (own a ha).2
    refine ⟨nodup, fun a ha => ⟨apart a ha, (own a ha).1⟩, denotes_function.1 hf, fun called => ?_⟩
    obtain ⟨names, hn⟩ := Option.isSome_iff_exists.1 called
    exact denotes_keys.1 (hk names hn).1
  · rintro ⟨nodup, apart, hf, hk⟩
    have own := parameters.2 ⟨nodup, fun a ha => (apart a ha).1⟩
    refine ⟨denotes_function.2 hf, placed.denotes_passed.2 fun a ha => ⟨(apart a ha).2, own a ha⟩,
      fun names hn => ⟨denotes_keys.2 (hk (Option.isSome_of_mem hn)), ?_⟩⟩
    rw [passes.keyArguments names hn, passes.keyed, List.forall₂_map_left_iff, List.forall₂_same]
    exact own

end OperationParts

/-- The names in the file of a hook, as they stand there, agree with the function and the entry of the
cache key: the hook calls the function with what it declares, one for one and in order, and so it does
with the cache key. What it calls and passes in this way is the function, the cache keys, its own
parameters and what it is triggered with if and only if the names for these are kept apart from all
others that are bound on the way to where they are used. -/
theorem hook_agrees (c : Setting) (t : Target) (library : HookLibrary) (name : String)
    (op : Operation) (w : Workspace) :
    Meets (emitOperation { c with templates := builtin } { t with hooks := some library } name op) w
      (fun o _ =>
        o.function.content = o.parts.functionText t ∧
        (∃ hook, o.hook = some hook ∧ hook.content = o.parts.hookText t library) ∧
        (∀ ops, o ∈ ops → ∃ text,
          queryKeysFile { c with templates := builtin } t ops = .ok text ∧
            Contains text (o.keyEntry.text t.module)) ∧
        o.parts.HookAgrees library ∧
        (o.parts.HookRight t library ↔ o.parts.HookApart t library))
      fun e _ => ∀ s, e ≠ .schema s := by
  apply (emitOperation_emits.and emitOperation_placed).imp
  · rintro o w' ⟨isFor, placed⟩
    refine ⟨(texts_of_write rfl isFor.filled isFor.written).1, ?_, fun ops ho => ?_,
      placed.hookAgrees library, placed.hookRight_iff⟩
    · have becomes := becomes_of_write isFor.written
      obtain ⟨hook, hh⟩ := Option.isSome_iff_exists.1 becomes.hooked
      obtain ⟨library', chosen, written⟩ := becomes.hook hook hh
      obtain rfl : library = library' := Option.some.inj chosen
      rw [writeHook_eq rfl] at written
      obtain rfl := Except.ok.inj written
      exact ⟨_, hh, rfl⟩
    · refine ⟨_, queryKeysFile_eq rfl, ?_⟩
      have entry : o.keyEntry.text t.module ∈ ops.map fun o => o.keyEntry.text t.module :=
        List.mem_map_of_mem ho
      exact ((contains_join entry).append_left _).append_right _
  · exact fun _ _ he => he.1

/-- In this hook the parameter `arg` is hidden by what the hook is triggered with, and not passed. -/
example : ¬ OperationParts.HookApart
    { functionName := "find", operation := { method := .post, path := "/x/\x7barg\x7d" },
      path := [{ name := "arg", type := .string }],
      body := some { name := "body", type := .string, place := .body }, query := none,
      responseType := .any } { module := "m" } .swr :=
  fun apart => absurd (apart.inside _ List.mem_cons_self).2 (by decide)

/-- This one calls its parameter `pet` in place of the function. -/
example : ¬ OperationParts.HookApart
    { functionName := "pet", operation := { method := .get, path := "/pet/\x7bpet\x7d" },
      path := [{ name := "pet", type := .string }], body := none, query := none,
      responseType := .any } { module := "m" } .reactQuery :=
  fun apart => absurd apart.function.2.1 (by decide)

end ClientGen.Emission
