import ClientGen.Proofs.Plan.FunctionNames

/-!
# Names of arguments

The argument of a placeholder is called by the words of the placeholder, and by another name if no
argument may be called so. From that follows when two arguments share a name, and which placeholders
get a name that the generated code uses itself.
-/

namespace ClientGen.Emission

open Api Naming

variable {c : Setting} {t : Target} {w : Workspace} {op : Operation} {name p q u v x : String}

/-! ### Names and their replacements -/

/-- The name that a placeholder asks for: its own if it is an identifier, and its camel case
otherwise. -/
def askedName (p : String) : String :=
  if isIdentifier p then p else camelCase p

/-- What replaces a name that no argument may have: no text, one that starts with a digit, a word of
the generated language, or a name that is kept. -/
def replacement? (name : String) : Option String :=
  match name.toList with
  | [] => some "param"
  | first :: _ =>
    if first.isDigit then some ("_" ++ name)
    else if name ∈ reservedWords then some (name ++ "_")
    else if name ∈ keptArguments then some (name ++ "Param")
    else none

/-- The name that a text replaces, if it replaces any. -/
def replaced (name : String) : String :=
  if name = "param" then ""
  else if name.toList.head? = some '_' then String.ofList (name.toList.drop 1)
  else if name.toList.getLast? = some '_' then String.ofList name.toList.dropLast
  else String.ofList (name.toList.take (name.toList.length - 5))

lemma replacement?_cases (h : replacement? u = some v) :
    (u = "" ∧ v = "param") ∨ (u.toList.head?.any Char.isDigit = true ∧ v = "_" ++ u) ∨
      (u ∈ reservedWords ∧ v = u ++ "_") ∨ (u ∈ keptArguments ∧ v = u ++ "Param") := by
  unfold replacement? at h
  split at h
  · next empty => exact .inl ⟨String.toList_eq_nil_iff.1 empty, (Option.some.inj h).symm⟩
  · next first rest chars =>
    split at h
    · next digit => exact .inr (.inl ⟨by simp [chars, digit], (Option.some.inj h).symm⟩)
    · split at h
      · next word => exact .inr (.inr (.inl ⟨word, (Option.some.inj h).symm⟩))
      · split at h
        · next kept => exact .inr (.inr (.inr ⟨kept, (Option.some.inj h).symm⟩))
        · cases h

/-- The words of the generated language and the kept names neither start nor end as a replacement
does. -/
lemma chars_of_word (h : u ∈ reservedWords ++ keptArguments) : ∃ first rest,
    u.toList = first :: rest ∧ first.isDigit = false ∧ first ≠ '_' ∧ u.toList.getLast? ≠ some '_' := by
  have all : ∀ u ∈ reservedWords ++ keptArguments,
      (u.toList.head?.any fun first => !first.isDigit && first != '_') = true ∧
        u.toList.getLast? ≠ some '_' := by decide
  obtain ⟨start, last⟩ := all u h
  cases chars : u.toList with
  | nil => simp [chars] at start
  | cons first rest =>
    simp only [chars, List.head?_cons, Option.any_some, Bool.and_eq_true, Bool.not_eq_true',
      bne_iff_ne] at start
    exact ⟨first, rest, rfl, start.1, start.2, chars ▸ last⟩

/-- A replacement tells the name that it replaces. -/
lemma replaced_of_replacement? (h : replacement? u = some v) : replaced v = u := by
  rcases replacement?_cases h with ⟨rfl, rfl⟩ | ⟨digit, rfl⟩ | ⟨word, rfl⟩ | ⟨kept, rfl⟩
  · decide
  · have other : "_" ++ u ≠ "param" := by
      intro same
      have first := congrArg (fun s : String => s.toList.head?) same
      simp at first
    simp [replaced, other]
  · obtain ⟨first, rest, chars, -, plain, -⟩ := chars_of_word (List.mem_append_left _ word)
    have other : u ++ "_" ≠ "param" := by
      intro same
      have last := congrArg (fun s : String => s.toList.getLast?) same
      simp at last
    have form : (u ++ "_").toList = u.toList ++ ['_'] := String.toList_append
    have start : (u.toList ++ ['_']).head? ≠ some '_' := by simpa [chars] using plain
    unfold replaced
    rw [if_neg other, form, if_neg start, if_pos List.getLast?_concat, List.dropLast_concat,
      String.ofList_toList]
  · have all : ∀ u ∈ keptArguments, replaced (u ++ "Param") = u := by decide
    exact all u kept

lemma notMem_of_first (u : String) :
    "_" ++ u ∉ reservedWords ∧ "_" ++ u ∉ keptArguments := by
  have other : "_" ++ u ∉ reservedWords ++ keptArguments := by
    intro h
    obtain ⟨first, rest, chars, -, plain, -⟩ := chars_of_word h
    simp only [String.toList_append] at chars
    exact plain (List.cons.inj chars).1.symm
  rwa [List.mem_append, not_or] at other

lemma notMem_of_last (u : String) :
    u ++ "_" ∉ reservedWords ∧ u ++ "_" ∉ keptArguments := by
  have other : u ++ "_" ∉ reservedWords ++ keptArguments := by
    intro h
    obtain ⟨first, rest, -, -, -, plain⟩ := chars_of_word h
    simp at plain
  rwa [List.mem_append, not_or] at other

/-- A replacement needs none itself. -/
lemma replacement?_of_replacement? (h : replacement? u = some v) : replacement? v = none := by
  rcases replacement?_cases h with ⟨rfl, rfl⟩ | ⟨digit, rfl⟩ | ⟨word, rfl⟩ | ⟨kept, rfl⟩
  · decide
  · unfold replacement?
    rw [String.toList_append]
    simp [notMem_of_first u]
  · obtain ⟨first, rest, chars, digit, -, -⟩ := chars_of_word (List.mem_append_left _ word)
    unfold replacement?
    rw [String.toList_append, chars]
    simp [digit, notMem_of_last u]
  · have all : ∀ u ∈ keptArguments, replacement? (u ++ "Param") = none := by decide
    exact all u kept

/-- The argument of a placeholder has the name that the placeholder asks for, or its replacement. -/
lemma pathArgumentName_eq (p : String) :
    pathArgumentName p = (replacement? (askedName p)).getD (askedName p) := by
  unfold pathArgumentName argumentName askedName replacement?
  generalize (if isIdentifier p then p else camelCase p) = u
  dsimp only
  cases chars : u.toList with
  | nil =>
    obtain rfl : u = "" := String.toList_eq_nil_iff.1 chars
    decide
  | cons first rest =>
    dsimp only
    by_cases digit : first.isDigit = true
    · simp [digit, notMem_of_first u]
    · by_cases word : u ∈ reservedWords
      · simp [digit, word, notMem_of_last u]
      · by_cases kept : u ∈ keptArguments <;> simp [digit, word, kept]

/-- Two placeholders share a name if they ask for one name, or if one of them asks for what replaces
the name that the other asks for. -/
lemma pathArgumentName_eq_iff : pathArgumentName p = pathArgumentName q ↔
    askedName p = askedName q ∨ replacement? (askedName p) = some (askedName q) ∨
      replacement? (askedName q) = some (askedName p) := by
  rw [pathArgumentName_eq, pathArgumentName_eq]
  generalize askedName p = u
  generalize askedName q = v
  cases hu : replacement? u with
  | none =>
    cases hv : replacement? v with
    | none => simp
    | some v' =>
      have other : u ≠ v := fun same => by simp [← same, hu] at hv
      simp [other, eq_comm]
  | some u' =>
    cases hv : replacement? v with
    | none =>
      have other : u ≠ v := fun same => by simp [same, hv] at hu
      simp [other]
    | some v' =>
      have final : u' ≠ v := fun same => by
        have none := replacement?_of_replacement? hu
        rw [same, hv] at none
        cases none
      have final' : v' ≠ u := fun same => by
        have none := replacement?_of_replacement? hv
        rw [same, hu] at none
        cases none
      simp only [Option.getD_some, Option.some.injEq, final, final', or_false]
      constructor
      · rintro rfl
        rw [← replaced_of_replacement? hu, replaced_of_replacement? hv]
      · rintro rfl
        exact Option.some.inj (hu.symm.trans hv)

example : pathArgumentName "a-b" = pathArgumentName "aB" ∧
    pathArgumentName "body" = pathArgumentName "bodyParam" := by
  decide

/-- The placeholders that get a name which replaces no other. -/
lemma pathArgumentName_eq_iff_of_plain (plain : replacement? (replaced x) ≠ some x) :
    pathArgumentName p = x ↔ askedName p = x ∧ replacement? x = none := by
  rw [pathArgumentName_eq]
  generalize askedName p = u
  cases hu : replacement? u with
  | none =>
    simp only [Option.getD_none]
    exact ⟨fun same => ⟨same, same ▸ hu⟩, fun h => h.1⟩
  | some v =>
    simp only [Option.getD_some]
    constructor
    · rintro rfl
      rw [replaced_of_replacement? hu] at plain
      exact absurd hu plain
    · rintro ⟨rfl, none⟩
      rw [hu] at none
      cases none

/-! ### Arguments of a function -/

/-- The arguments of an operation by their places. Only what asks takes a query, and only what changes
something takes a body. -/
structure OperationParts.Placed (p : OperationParts) : Prop where
  path : ∀ a ∈ p.path, a.required = true ∧ a.place = .path
  body : ∀ a ∈ p.body, a.name = "body" ∧ a.required = true ∧ a.place = .body ∧
    p.operation.method.isQuery = false
  query : ∀ a ∈ p.query, a.name = "query" ∧ a.place = .query ∧ p.operation.method.isQuery = true

lemma pathArguments_placed {pascal : String} : Meets (pathArguments c t op pascal) w
    (fun path _ => ∀ a ∈ path, a.required = true ∧ a.place = .path) fun _ _ => True := by
  refine meets_mapM _ w fun p _ w' => meets_bind.2 (Meets.trivial.imp (fun type w₁ _ => ?_) ?_)
  · exact meets_pure.2 ⟨rfl, rfl⟩
  · exact fun _ _ _ => trivial

lemma bodyArgument_placed {pascal : String} : Meets (bodyArgument? c t op pascal) w
    (fun body _ => ∀ a ∈ body, a.name = "body" ∧ a.required = true ∧ a.place = .body ∧
      op.method.isQuery = false) fun _ _ => True := by
  unfold bodyArgument?
  split
  · exact meets_pure.2 (by simp)
  · next node given =>
    have changes : op.method.isQuery = false := by
      cases method : op.method <;> simp [method, Method.hasBody] at given <;> rfl
    apply meets_bind.2
    apply Meets.trivial.imp
    · intro type w' _
      exact meets_pure.2 (by simp [changes])
    · exact fun _ _ _ => trivial

lemma queryArgument_placed {pascal : String} : Meets (queryArgument? c t op pascal) w
    (fun query _ => ∀ a ∈ query, a.name = "query" ∧ a.place = .query ∧
      op.method.isQuery = true) fun _ _ => True := by
  unfold queryArgument?
  split
  · next asks =>
    rw [Bool.and_eq_true] at asks
    apply meets_map.2
    unfold queryArgument
    apply meets_bind.2 (Meets.trivial.imp (fun fields w₁ _ => ?_) fun _ _ _ => trivial)
    apply meets_bind.2 (Meets.trivial.imp (fun _ w₂ _ => ?_) fun _ _ _ => trivial)
    apply meets_bind.2 (Meets.trivial.imp (fun _ w₃ _ => ?_) fun _ _ _ => trivial)
    exact meets_pure.2 (by simp [asks.1])
  · exact meets_pure.2 (by simp)

lemma emitOperation_placed :
    Meets (emitOperation c t name op) w (fun o _ => o.parts.Placed) fun _ _ => True := by
  have parts : Meets (operationParts c t name op) w (fun p _ => p.Placed) fun _ _ => True := by
    apply meets_bind.2 (pathArguments_placed.imp (fun path w₁ hp => ?_) fun _ _ _ => trivial)
    apply meets_bind.2 (bodyArgument_placed.imp (fun body w₂ hb => ?_) fun _ _ _ => trivial)
    apply meets_bind.2 (queryArgument_placed.imp (fun query w₃ hq => ?_) fun _ _ _ => trivial)
    apply meets_bind.2 (Meets.trivial.imp (fun response w₄ _ => ?_) fun _ _ _ => trivial)
    exact meets_pure.2 ⟨hp, hb, hq⟩
  apply meets_bind.2 (parts.imp (fun p w' h => ?_) fun _ _ _ => trivial)
  apply meets_liftM.2
  constructor
  · intro o written
    obtain rfl := (becomes_of_write (Contract.mapError_eq_ok written)).parts
    exact h
  · exact fun _ _ => trivial

/-- Besides those of the path, the arguments of a function are called `body` and `query`. -/
lemma emitOperation_named : Meets (emitOperation c t name op) w
    (fun o _ => (∀ a ∈ o.parts.body, a.name = "body") ∧ ∀ a ∈ o.parts.query, a.name = "query")
    fun _ _ => True :=
  emitOperation_placed.imp
    (fun _ _ h => ⟨fun a ha => (h.body a ha).1, fun a ha => (h.query a ha).1⟩) fun _ _ _ => trivial

lemma emitOperation_emits : Meets (emitOperation c t name op) w
    (fun o _ => o.IsFor c t name op) fun e _ => ∀ s, e ≠ .schema s := by
  have emitted : (Faults.any c).contract.handled.Keeps (emitOperation c t name op) w
      fun o _ => o.IsFor c t name op :=
    emitOperation_handles (fun _ _ _ _ => trivial) fun _ _ _ => trivial
  exact (emitted trivial).imp (fun o w' h => h.2.2) fun _ _ he => he.1.2

/-- The names of the path's arguments and those of the others are looked at apart. -/
lemma nodup_arguments {parts : OperationParts} (hb : ∀ a ∈ parts.body, a.name = "body")
    (hq : ∀ a ∈ parts.query, a.name = "query")
    (path : ∀ a ∈ parts.path, a.name ∉ keptArguments) :
    (parts.arguments.map (·.name)).Nodup ↔ (parts.path.map (·.name)).Nodup := by
  have others : ((parts.body.toList ++ parts.query.toList).map (·.name)).Sublist
      ["body", "query"] := by
    cases body : parts.body with
    | none =>
      cases query : parts.query with
      | none => simp
      | some b => simp [hq b query]
    | some a =>
      cases query : parts.query with
      | none => simp [hb a body]
      | some b => simp [hb a body, hq b query]
  unfold OperationParts.arguments
  rw [List.append_assoc, List.map_append, List.nodup_append]
  constructor
  · exact fun h => h.1
  · refine fun nodup => ⟨nodup, others.nodup (by decide), ?_⟩
    rintro x hx y hy rfl
    obtain ⟨a, ha, rfl⟩ := List.mem_map.1 hx
    have kept : ["body", "query"] ⊆ keptArguments := by decide
    exact path a ha (kept (others.subset hy))

/-- The names that functions, cache keys and hooks bind or use besides those that are kept. -/
def helperNames : List String :=
  ["url", "http", "buildQuery", "queryClient", "arg", "_key"]

lemma pathArgumentName_notMem_kept (p : String) : pathArgumentName p ∉ keptArguments := by
  intro kept
  have all : ∀ k ∈ keptArguments, replacement? (replaced k) ≠ some k ∧ replacement? k ≠ none := by
    decide
  obtain ⟨plain, some⟩ := all _ kept
  exact some ((pathArgumentName_eq_iff_of_plain plain).1 rfl).2

lemma pathArgumentName_eq_helper (hx : x ∈ helperNames) :
    pathArgumentName p = x ↔ askedName p = x := by
  have all : ∀ k ∈ helperNames, replacement? (replaced k) ≠ some k ∧ replacement? k = none := by
    decide
  obtain ⟨plain, none⟩ := all x hx
  rw [pathArgumentName_eq_iff_of_plain plain]
  simp [none]

/-- The arguments of a function have distinct names exactly if no two placeholders of the path ask for
one name and none asks for what replaces the name that another asks for. No argument of the path has
a kept name. One has a name that functions, cache keys or hooks bind or use besides exactly if a
placeholder asks for it. -/
theorem argumentNames_nodup_iff (c : Setting) (t : Target) (name : String) (op : Operation)
    (w : Workspace) :
    Meets (emitOperation c t name op) w
      (fun o _ =>
        ((o.arguments.map (·.name)).Nodup ↔
          ∀ p ∈ placeholders op.path, ∀ q ∈ placeholders op.path, p ≠ q →
            askedName p ≠ askedName q ∧ replacement? (askedName p) ≠ some (askedName q)) ∧
        (∀ a ∈ o.parts.path, a.name ∉ keptArguments) ∧
        ∀ x ∈ helperNames, (∃ a ∈ o.parts.path, a.name = x) ↔
          ∃ p ∈ placeholders op.path, askedName p = x)
      fun e _ => ∀ s, e ≠ .schema s := by
  apply (emitOperation_emits.and emitOperation_named).imp
  · rintro o w' ⟨isFor, body, query⟩
    have names : o.parts.path.map (·.name) =
        (distinct (placeholders op.path)).map pathArgumentName := by
      rw [isFor.filled, isFor.operation]
    have mem_names (x : String) : (∃ a ∈ o.parts.path, a.name = x) ↔
        ∃ p ∈ placeholders op.path, pathArgumentName p = x := by
      rw [← List.mem_map, names, List.mem_map]
      simp only [mem_distinct]
    have free : ∀ a ∈ o.parts.path, a.name ∉ keptArguments := by
      intro a ha
      obtain ⟨p, -, same⟩ := (mem_names a.name).1 ⟨a, ha, rfl⟩
      rw [← same]
      exact pathArgumentName_notMem_kept p
    refine ⟨?_, free, fun x hx => ?_⟩
    · change (o.parts.arguments.map (·.name)).Nodup ↔ _
      rw [nodup_arguments body query free, names, List.nodup_map_iff_inj_on nodup_distinct]
      simp only [mem_distinct, pathArgumentName_eq_iff]
      constructor
      · intro inj p hp q hq other
        exact ⟨fun same => other (inj p hp q hq (.inl same)),
          fun same => other (inj p hp q hq (.inr (.inl same)))⟩
      · intro apart p hp q hq same
        by_contra other
        rcases same with same | same | same
        · exact (apart p hp q hq other).1 same
        · exact (apart p hp q hq other).2 same
        · exact (apart q hq p hp (Ne.symm other)).2 same
    · rw [mem_names]
      simp only [pathArgumentName_eq_helper hx]
  · exact fun _ _ he => he.1

end ClientGen.Emission
