import ClientGen.Proofs.Naming.Identifiers
import ClientGen.Proofs.Plan.ArgumentNames
import ClientGen.Proofs.Plan.Steps

/-!
# Whether the names of operations can be used

A function is called by the id of its operation, which is made an identifier, or by its method and the
last part of its path, which is taken as it is. So a function is called by a reserved word only if it
deletes and nothing but the method tells its name. The names of the response's alias and of the
query's interface are put in pascal case, which takes away again what stands before a leading digit.
-/

namespace ClientGen.Emission

open Api Naming Text TypeScript

variable {c : Setting} {t : Target} {w : Workspace} {op : Operation} {m : Method} {n : String}

/-! ### Names by ids -/

/-- No letter or digit of ASCII is in a text. -/
def Wordless (s : String) : Prop :=
  ∀ c ∈ s.toList, c.isAlphanum = false

lemma not_wordless_iff {s : String} : ¬ Wordless s ↔ ∃ c ∈ s.toList, c.isAlphanum = true := by
  simp [Wordless]

/-- The first letter or digit of a text in camel case is that of the text, as a small letter. -/
lemma head?_camelCase (s : String) : (camelCase s).toList.head? =
    (s.toList.find? Char.isAlphanum).map fun c => c.toUpper.toLower := by
  have head := head?_pascalChars (s := s.toList)
  rw [toList_camelCase]
  cases form : pascalChars s.toList with
  | nil =>
    rw [form] at head
    cases found : s.toList.find? Char.isAlphanum with
    | none => rfl
    | some d => simp [found] at head
  | cons d ds =>
    rw [form] at head
    cases found : s.toList.find? Char.isAlphanum with
    | none => simp [found] at head
    | some e =>
      simp only [found, List.head?_cons, Option.map_some, Option.some.injEq] at head
      simp [head]

/-- Digits and what follows them are a word in camel case. -/
lemma camelCase_of_digit {d : Char} {ds : List Char} (chars : n.toList = d :: ds)
    (all : ∀ c ∈ n.toList, c.isAlphanum = true) (digit : d.isDigit = true) : camelCase n = n := by
  have small : d.toLower = d := by
    have range := isDigit_iff.1 digit
    have := toNat_toLower d
    exact Char.toNat_inj.1 (by omega)
  have same : pascalChars n.toList = d :: ds := by
    unfold pascalChars
    rw [runs_of_all (by simp [chars]) all, chars, List.map_singleton, List.flatten_singleton]
    change d.toUpper :: ds = d :: ds
    rw [toUpper_of_isDigit digit]
  rw [← String.toList_inj, toList_camelCase, same, chars]
  change d.toLower :: ds = d :: ds
  rw [small]

/-- A word that is made an argument's name becomes an identifier and no reserved word, and its first
letter or digit stays that of the word. -/
lemma argumentName_of_word (word : n ≠ "") (all : ∀ c ∈ n.toList, c.isAlphanum = true) :
    IsIdentifier (argumentName n) ∧ argumentName n ∉ reservedWords ∧
      (argumentName n).toList.find? Char.isAlphanum = n.toList.head? := by
  obtain ⟨d, ds, chars⟩ := List.exists_cons_of_ne_nil (mt String.toList_eq_nil_iff.1 word)
  have first : d.isAlphanum = true := all d (chars ▸ List.mem_cons_self)
  have parts : ∀ c ∈ n.toList, isIdentifierPart c = true := fun c hc =>
    isIdentifierPart_of_isAlphanum (all c hc)
  have line : isIdentifierPart '_' = true := by decide
  cases digit : d.isDigit with
  | true =>
    have start : isIdentifierStart d = false := by
      rw [← Bool.not_eq_true, isIdentifierStart_iff first, digit]
      exact Bool.noConfusion
    have base : (if isIdentifier n = true then n else camelCase n) = n := by
      have other : isIdentifier n = false := by simp [isIdentifier, chars, start]
      rw [other, if_neg Bool.false_ne_true, camelCase_of_digit chars all digit]
    have name : argumentName n = "_" ++ n := by
      unfold argumentName
      rw [base]
      simp [chars, digit, (notMem_of_first n).1]
    rw [name]
    refine ⟨IsIdentifier.append ⟨'_', [], rfl, by decide, by simp⟩ parts, (notMem_of_first n).1, ?_⟩
    rw [String.toList_append, chars]
    simp [first, show Char.isAlphanum '_' = false by decide]
  | false =>
    have own : IsIdentifier n := by
      refine ⟨d, ds, chars, (isIdentifierStart_iff first).2 digit, fun e he => parts e ?_⟩
      exact chars ▸ List.mem_cons_of_mem d he
    have name : argumentName n = if n ∈ reservedWords then n ++ "_" else n := by
      unfold argumentName
      rw [own.isIdentifier, if_pos rfl]
      simp [chars, digit]
    rw [name]
    by_cases reserved : n ∈ reservedWords
    · rw [if_pos reserved]
      refine ⟨own.append (by simpa using line), (notMem_of_last n).1, ?_⟩
      rw [String.toList_append, chars]
      simp [first]
    · rw [if_neg reserved, chars]
      exact ⟨own, reserved, by simp [first]⟩

/-! ### Names by methods and paths -/

/-- What stands before the word of a resource: small letters, and a reserved word starts with them only
if it is `delete`. -/
lemma methodWord_cases (listed : m ∈ Method.listed) :
    ((methodWord m).toList.head?.any fun c => c.toUpper.toLower == c && !c.isDigit) = true ∧
      (∀ c ∈ (methodWord m).toList, c.isAlphanum = true) ∧
      ∀ r ∈ reservedWords, (methodWord m).toList <+: r.toList → m = .delete ∧ r = "delete" := by
  have all : ∀ m ∈ Method.listed,
      ((methodWord m).toList.head?.any fun c => c.toUpper.toLower == c && !c.isDigit) = true ∧
        ((methodWord m).toList.all fun c => c.isAlphanum) = true ∧
        ∀ r ∈ reservedWords, (methodWord m).toList <+: r.toList → m = .delete ∧ r = "delete" := by
    decide
  exact (all m listed).imp_right (And.imp_left List.all_eq_true.1)

/-- Behind the word of the method stands what is left of a text in camel case. -/
lemma exists_camelCase_methodWord (listed : m ∈ Method.listed) (s : String) :
    ∃ rest, (camelCase (methodWord m ++ s)).toList = (methodWord m).toList ++ rest ∧
      (rest = [] ↔ Wordless s) := by
  obtain ⟨start, letters, -⟩ := methodWord_cases listed
  cases chars : (methodWord m).toList with
  | nil => simp [chars] at start
  | cons d ds =>
    simp only [chars, List.head?_cons, Option.any_some, Bool.and_eq_true, beq_iff_eq] at start
    rw [chars] at letters
    obtain ⟨v, ws, runs⟩ := exists_runs_prefix (List.cons_ne_nil d ds) letters s.toList
    have form : pascalChars ((methodWord m ++ s).toList) =
        d.toUpper :: (ds ++ (v ++ (ws.map capitalised).flatten)) := by
      unfold pascalChars
      rw [String.toList_append, chars, runs]
      simp [capitalised]
    refine ⟨v ++ (ws.map capitalised).flatten, ?_, ?_⟩
    · rw [toList_camelCase, form]
      change d.toUpper.toLower :: _ = _
      rw [start.1, List.cons_append]
    · -- As many characters follow as the text has letters and digits.
      have length := length_pascalChars ((methodWord m ++ s).toList)
      rw [form, String.toList_append, chars, List.filter_append, List.filter_eq_self.2 letters,
        List.length_append] at length
      simp only [List.length_cons, List.length_append] at length
      unfold Wordless
      rw [← List.length_eq_zero_iff, List.length_append]
      have none : (s.toList.filter Char.isAlphanum).length = 0 ↔
          ∀ c ∈ s.toList, c.isAlphanum = false := by
        rw [List.length_eq_zero_iff, List.filter_eq_nil_iff]
        simp
      rw [← none]
      omega

/-- Neither its id nor its path has a word that tells the name of an operation. -/
structure IsBare (op : Operation) : Prop where
  id : Wordless (op.operationId.getD "")
  path : ∀ r ∈ (resources op.path).getLast?, Wordless r ∧ '\x7b' ∉ op.path.toList

lemma wordless_pascalCase {s : String} : Wordless (pascalCase s) ↔ Wordless s := by
  have empty : Wordless (pascalCase s) ↔ pascalChars s.toList = [] := by
    constructor
    · intro h
      apply List.eq_nil_iff_forall_not_mem.2
      intro d hd
      have mem : d ∈ (pascalCase s).toList := by rwa [pascalCase, String.toList_ofList]
      cases (h d mem).symm.trans (isAlphanum_of_mem_pascalCase mem)
    · intro h
      simp [Wordless, pascalCase, h]
  rw [empty, pascalChars_eq_nil_iff, Wordless]

/-- The name by method and path is the word of the method with letters and digits behind it, and it is
the word alone if the path has none to add. -/
lemma nameByPath_form (listed : m ∈ Method.listed) (path : String) :
    ∃ rest, (nameByPath m path).toList = (methodWord m).toList ++ rest ∧
      (∀ c ∈ rest, c.isAlphanum = true) ∧
      (rest = [] ↔ ∀ r ∈ (resources path).getLast?, Wordless r ∧ '\x7b' ∉ path.toList) := by
  have camel (s : String) : ∃ rest, (camelCase (methodWord m ++ s)).toList =
      (methodWord m).toList ++ rest ∧ (∀ c ∈ rest, c.isAlphanum = true) ∧ (rest = [] ↔ Wordless s) := by
    obtain ⟨rest, form, none⟩ := exists_camelCase_methodWord listed s
    exact ⟨rest, form, fun c hc => isAlphanum_of_mem_camelCase
      (form ▸ List.mem_append_right _ hc), none⟩
  unfold nameByPath
  cases last : (resources path).getLast? with
  | none => exact ⟨[], by simp, by simp, by simp⟩
  | some r =>
    dsimp only
    by_cases brace : '\x7b' ∈ path.toList
    · obtain ⟨rest, form, letters, none⟩ := camel (singular (pascalCase r) ++ "ById")
      rw [if_pos (by simpa using brace), String.append_assoc]
      refine ⟨rest, form, letters, ?_⟩
      have words : ¬ Wordless (singular (pascalCase r) ++ "ById") :=
        fun h => absurd (h 'B' (by simp)) (by decide)
      simp [none, words, brace]
    · obtain ⟨rest, form, letters, none⟩ := camel (pascalCase r)
      rw [if_neg (by simpa using brace)]
      exact ⟨rest, form, letters, by simp [none, wordless_pascalCase, brace]⟩

/-! ### Names of operations -/

/-- A hook is called by an identifier that is not reserved, since `use` stands in front. -/
lemma hookName_usable (n : String) :
    IsIdentifier ("use" ++ pascalCase n) ∧ "use" ++ pascalCase n ∉ reservedWords := by
  have chars : ("use" ++ pascalCase n).toList = "use".toList ++ (pascalCase n).toList :=
    String.toList_append
  have letters : ∀ c ∈ "use".toList, c.isAlphanum = true := List.all_eq_true.1 (by decide)
  constructor
  · rw [isIdentifier_iff, chars]
    · exact ⟨'u', rfl, by decide⟩
    · rw [chars]
      exact List.forall_mem_append.2 ⟨letters, fun c => isAlphanum_of_mem_pascalCase⟩
  · intro reserved
    have none : ∀ r ∈ reservedWords, ¬ "use".toList <+: r.toList := by decide
    exact none _ reserved ⟨_, chars.symm⟩

/-- What holds of a name that an operation gives its function. -/
structure NamesFunction (op : Operation) (n : String) : Prop where
  identifier : IsIdentifier n
  word : ∃ c ∈ n.toList, c.isAlphanum = true
  reserved : n ∈ reservedWords → n = "delete" ∧ op.method = .delete ∧ IsBare op
  digit : StartsWithDigit n ↔ StartsWithDigit (op.operationId.getD "")

/-- An id with a word in it is made an identifier. -/
lemma namesFunction_argumentName (word : ¬ Wordless (op.operationId.getD "")) :
    NamesFunction op (argumentName (camelCase (op.operationId.getD ""))) := by
  have some : camelCase (op.operationId.getD "") ≠ "" := mt camelCase_eq_empty_iff.1 word
  obtain ⟨identifier, free, first⟩ :=
    argumentName_of_word some fun c => isAlphanum_of_mem_camelCase
  rw [head?_camelCase] at first
  refine ⟨identifier, ?_, fun reserved => absurd reserved free, ?_⟩
  · rw [← List.find?_isSome, first, Option.isSome_map, List.find?_isSome]
    exact not_wordless_iff.1 word
  · unfold StartsWithDigit
    rw [first]
    simp

/-- Without an id, a name starts with a small letter, and it is `delete` if nothing but the method
tells it. -/
lemma namesFunction_nameByPath (listed : op.method ∈ Method.listed)
    (word : Wordless (op.operationId.getD "")) :
    NamesFunction op (nameByPath op.method op.path) ∧
      (op.method = .delete → IsBare op → nameByPath op.method op.path = "delete") := by
  obtain ⟨rest, form, letters, none⟩ := nameByPath_form listed op.path
  obtain ⟨start, own, reserved⟩ := methodWord_cases listed
  have noDigit : ¬ StartsWithDigit (op.operationId.getD "") := by
    unfold StartsWithDigit
    rw [List.find?_eq_none.2 fun c hc => by simp [word c hc]]
    simp
  cases chars : (methodWord op.method).toList with
  | nil => simp [chars] at start
  | cons d ds =>
    simp only [chars, List.head?_cons, Option.any_some, Bool.and_eq_true, Bool.not_eq_true']
      at start
    have first : d.isAlphanum = true := own d (chars ▸ List.mem_cons_self)
    have all : ∀ c ∈ (nameByPath op.method op.path).toList, c.isAlphanum = true := by
      rw [form]
      exact List.forall_mem_append.2 ⟨own, letters⟩
    refine ⟨⟨?_, ⟨d, by simp [form, chars], first⟩, fun mem => ?_, ?_⟩, fun delete bare => ?_⟩
    · rw [isIdentifier_iff all, form, chars]
      exact ⟨d, rfl, start.2⟩
    · obtain ⟨delete, same⟩ := reserved _ mem ⟨rest, form.symm⟩
      refine ⟨same, delete, word, none.1 ?_⟩
      rw [same, delete] at form
      exact List.self_eq_append_right.1 form
    · refine iff_of_false ?_ noDigit
      unfold StartsWithDigit
      rw [form, chars, List.cons_append, List.find?_cons_of_pos first]
      simp [start.2]
    · rw [none.2 bare.path, List.append_nil, String.toList_inj] at form
      rw [form, delete]
      rfl

/-- Every operation with one of the methods that paths list names its function. -/
lemma namesFunction (listed : op.method ∈ Method.listed) :
    NamesFunction op (functionName op.method op.path op.operationId) ∧
      (op.method = .delete → IsBare op → functionName op.method op.path op.operationId = "delete") := by
  unfold functionName
  dsimp only
  by_cases word : Wordless (op.operationId.getD "")
  · rw [if_pos (by simpa using camelCase_eq_empty_iff.2 word)]
    exact namesFunction_nameByPath listed word
  · rw [if_neg (by simpa using mt camelCase_eq_empty_iff.1 word)]
    exact ⟨namesFunction_argumentName word, fun _ bare => absurd bare.id word⟩

/-- So does the name with a number behind it. -/
lemma NamesFunction.numbered (h : NamesFunction op n) (k : Nat) :
    NamesFunction op (numbered (n, k)) := by
  have starts : ∃ cs, (Naming.numbered (n, k)).toList = n.toList ++ cs := by
    unfold Naming.numbered
    split
    · exact ⟨[], (List.append_nil _).symm⟩
    · exact ⟨_, String.toList_append⟩
  obtain ⟨cs, chars⟩ := starts
  obtain ⟨d, hd, letter⟩ := h.word
  refine ⟨h.identifier.numbered k, ⟨d, chars ▸ List.mem_append_left cs hd, letter⟩, fun mem => ?_, ?_⟩
  · obtain ⟨one, reserved⟩ := numbered_mem_reservedWords.1 mem
    obtain rfl : k = 1 := one
    rw [numbered_one]
    exact h.reserved reserved
  · rw [← h.digit]
    obtain ⟨first, found⟩ := Option.isSome_iff_exists.1 (List.find?_isSome.2 h.word)
    unfold StartsWithDigit
    rw [chars, List.find?_append, found, Option.some_or]

/-- The function of every emitted operation is called by the operation's name with a number. -/
lemma EmittedAll.exists_numbered {before : String → Nat} {ops : List Operation}
    {emitted : List ClientOperation} (h : EmittedAll c t before ops emitted) {o : ClientOperation}
    (ho : o ∈ emitted) : ∃ k, o.functionName = numbered (functionName o.parts.operation.method
      o.parts.operation.path o.parts.operation.operationId, k) := by
  obtain ⟨i, hi, rfl⟩ := List.mem_iff_getElem.1 ho
  have operation : ops[i]? = some emitted[i].parts.operation := by
    rw [← h.operations, List.getElem?_map, List.getElem?_eq_getElem hi, Option.map_some]
  have base : (occurrences before (baseNames ops))[i]?.map Prod.fst = some (functionName
      emitted[i].parts.operation.method emitted[i].parts.operation.path
      emitted[i].parts.operation.operationId) := by
    rw [← List.getElem?_map, map_fst_occurrences, baseNames, List.getElem?_map, operation,
      Option.map_some]
  have name : some emitted[i].functionName =
      (occurrences before (baseNames ops))[i]?.map numbered := by
    rw [← List.getElem?_map, ← h.names, List.getElem?_map, List.getElem?_eq_getElem hi,
      Option.map_some]
  obtain ⟨⟨b, k⟩, occurrence, rfl⟩ := Option.map_eq_some_iff.1 base
  rw [occurrence] at name
  exact ⟨k, Option.some.inj name⟩

lemma queryArgument_named : Meets (queryArgument? c t op (pascalCase n)) w
    (fun query _ => ∀ a ∈ query, a.type = .named (some t.namespace_) (queryName n))
    fun _ _ => True := by
  unfold queryArgument?
  split
  · apply meets_map.2
    unfold queryArgument
    apply meets_bind.2 (Meets.trivial.imp (fun fields w₁ _ => ?_) fun _ _ _ => trivial)
    apply meets_bind.2 (Meets.trivial.imp (fun _ w₂ _ => ?_) fun _ _ _ => trivial)
    apply meets_bind.2 (Meets.trivial.imp (fun _ w₃ _ => ?_) fun _ _ _ => trivial)
    exact meets_pure.2 (by simp [queryName])
  · exact meets_pure.2 (by simp)

/-- The interface of a query is called by the name of the function. -/
lemma emitOperation_query : Meets (emitOperation c t n op) w
    (fun o _ => ∀ a ∈ o.parts.query, a.type = .named (some t.namespace_) (queryName o.functionName))
    fun _ _ => True := by
  have parts : Meets (operationParts c t n op) w
      (fun p _ => ∀ a ∈ p.query, a.type = .named (some t.namespace_) (queryName p.functionName))
      fun _ _ => True := by
    apply meets_bind.2 (Meets.trivial.imp (fun path w₁ _ => ?_) fun _ _ _ => trivial)
    apply meets_bind.2 (Meets.trivial.imp (fun body w₂ _ => ?_) fun _ _ _ => trivial)
    apply meets_bind.2 (queryArgument_named.imp (fun query w₃ hq => ?_) fun _ _ _ => trivial)
    apply meets_bind.2 (Meets.trivial.imp (fun response w₄ _ => ?_) fun _ _ _ => trivial)
    exact meets_pure.2 hq
  apply meets_bind.2 (parts.imp (fun p w' h => ?_) fun _ _ _ => trivial)
  refine meets_liftM.2 ⟨fun o written => ?_, fun _ _ => trivial⟩
  obtain rfl := (becomes_of_write (Contract.mapError_eq_ok written)).parts
  exact h

lemma emitOperations_query : ∀ {ops : List Operation} {asked : List (String × Nat)} {w : Workspace},
    Meets (emitOperations c t asked ops) w (fun r _ => ∀ o ∈ r.1, ∀ a ∈ o.parts.query,
      a.type = .named (some t.namespace_) (queryName o.functionName)) fun _ _ => True
  | [], _, _ => meets_pure.2 (by simp)
  | op :: rest, asked, w => by
    rw [emitOperations]
    dsimp only
    apply meets_bind.2
    apply meets_caught.2
    apply emitOperation_query.imp
    · intro o w₁ ho
      apply meets_bind.2 (meets_pure.2 _)
      apply meets_bind.2 (emitOperations_query.imp (fun r w₂ hr => ?_) fun _ _ _ => trivial)
      exact meets_pure.2 (List.forall_mem_cons.2 ⟨ho, hr⟩)
    · intro e w₁ _
      cases e with
      | schema e => ?_
      | _ => trivial
      dsimp only
      apply meets_bind.2 (Meets.trivial.imp (fun _ w₂ _ => ?_) fun _ _ _ => trivial)
      apply meets_bind.2 (meets_pure.2 _)
      apply meets_bind.2 (emitOperations_query.imp (fun r w₃ hr => ?_) fun _ _ _ => trivial)
      exact meets_pure.2 hr

/-- The names of an emitted operation and what they are good for. A function's name is an identifier,
and a reserved word only if it deletes and nothing else tells its name. A hook's name can always be
used. The names of the response's alias and of the query's interface are identifiers unless a digit
comes first among the letters and digits of the operation's id. -/
structure ClientOperation.Named (o : ClientOperation) (t : Target) : Prop where
  function : IsIdentifier o.functionName
  reserved : o.functionName ∈ reservedWords →
    o.functionName = "delete" ∧ o.method = .delete ∧ IsBare o.parts.operation
  hook : IsIdentifier o.hookName ∧ o.hookName ∉ reservedWords
  alias_ : IsIdentifier o.alias_.name ↔
    ¬ StartsWithDigit (o.parts.operation.operationId.getD "")
  query : ∀ a ∈ o.parts.query, ∃ name, a.type = .named (some t.namespace_) name ∧
    (IsIdentifier name ↔ ¬ StartsWithDigit (o.parts.operation.operationId.getD ""))

/-- What is known of the names of a module's operations. A function has a reserved name exactly if an
operation deletes that neither its id nor its path names. -/
structure OperationsNamed (t : Target) (ops : List Operation) (emitted : List ClientOperation) :
    Prop where
  operations : emitted.map (·.parts.operation) = ops
  named : ∀ o ∈ emitted, o.Named t
  reserved : (∃ o ∈ emitted, o.functionName ∈ reservedWords) ↔
    ∃ op ∈ ops, op.method = .delete ∧ IsBare op

lemma EmittedAll.named {ops : List Operation} {emitted : List ClientOperation}
    (h : EmittedAll c t (fun _ => 0) ops emitted) (listed : ∀ op ∈ ops, op.method ∈ Method.listed)
    (queries : ∀ o ∈ emitted, ∀ a ∈ o.parts.query,
      a.type = .named (some t.namespace_) (queryName o.functionName)) :
    OperationsNamed t ops emitted := by
  have named : ∀ o ∈ emitted, o.Named t := by
    intro o ho
    have own : o.parts.operation ∈ ops := h.operations ▸ List.mem_map_of_mem ho
    obtain ⟨k, name⟩ := h.exists_numbered ho
    have names : NamesFunction o.parts.operation o.functionName :=
      name ▸ (namesFunction (listed _ own)).1.numbered k
    have typeName {m : String} (all : ∀ c ∈ m.toList, c.isAlphanum = true) :
        IsIdentifier (pascalCase o.functionName ++ m) ↔
          ¬ StartsWithDigit (o.parts.operation.operationId.getD "") := by
      rw [isIdentifier_pascalCase_append names.word all, names.digit]
    refine ⟨names.identifier, names.reserved, hookName_usable o.functionName, ?_, fun a ha => ?_⟩
    · obtain ⟨_, -, alias_⟩ := (becomes_of_write (h.written o ho)).alias_
      rw [alias_]
      exact typeName (List.all_eq_true.1 (by decide))
    · exact ⟨_, queries o ho a ha, typeName (List.all_eq_true.1 (by decide))⟩
  refine ⟨h.operations, named, ?_, ?_⟩
  · rintro ⟨o, ho, reserved⟩
    obtain ⟨-, delete, bare⟩ := (named o ho).reserved reserved
    exact ⟨o.parts.operation, h.operations ▸ List.mem_map_of_mem ho, delete, bare⟩
  · rintro ⟨op, hop, delete, bare⟩
    have base : "delete" ∈ baseNames ops :=
      List.mem_map.2 ⟨op, hop, (namesFunction (listed op hop)).2 delete bare⟩
    have first : numbered ("delete", 1) ∈ emitted.map ClientOperation.functionName := by
      rw [h.names]
      exact List.mem_map_of_mem
        (mem_occurrences_zero.2 ⟨Nat.le_refl 1, List.one_le_count_iff.2 base⟩)
    obtain ⟨o, ho, name⟩ := List.mem_map.1 first
    refine ⟨o, ho, ?_⟩
    rw [name, numbered_one]
    decide

/-- A module has a function for each of its operations, with a name that can be used as far as is told
here. -/
theorem operationNames_usable_iff (c : Setting) (t : Target) (ops : List Operation) (w : Workspace)
    (listed : ∀ op ∈ ops, op.method ∈ Method.listed) :
    Meets (emitOperations c t [] ops) w (fun r _ => OperationsNamed t ops r.1)
      fun e _ => ∀ s, e ≠ .schema s := by
  apply (emitOperations_emits.and emitOperations_query).imp
  · rintro r w' ⟨⟨emitted, -⟩, queries⟩
    exact EmittedAll.named emitted listed queries
  · exact fun _ _ he => he.1

/-- A setting without schemas. -/
def plainSetting : Setting where
  description := { schemas := [], operations := [] }

/-- Operations of which one is called by its method alone and one by a number. -/
def awkwardOperations : List Operation :=
  [{ method := .delete, path := "/" }, { method := .get, path := "/codes", operationId := some "123" }]

/-- The first of them gets a reserved name, the second one an alias that is no identifier. -/
theorem operationNames_awkward : (∀ op ∈ awkwardOperations, op.method ∈ Method.listed) ∧
    ∃ r w, outcome (emitOperations plainSetting { module := "m" } [] awkwardOperations) {} =
        (.ok r, w) ∧
      OperationsNamed { module := "m" } awkwardOperations r.1 ∧
      r.1.map (fun o => (o.functionName, o.alias_.name)) =
        [("delete", "DeleteResponse"), ("_123", "123Response")] := by
  have listed : ∀ op ∈ awkwardOperations, op.method ∈ Method.listed := by decide
  have names : (outcome (emitOperations plainSetting { module := "m" } [] awkwardOperations)
        {}).1.toOption.map (fun r => r.1.map fun o => (o.functionName, o.alias_.name)) =
      some [("delete", "DeleteResponse"), ("_123", "123Response")] := by
    decide +kernel
  have named := operationNames_usable_iff plainSetting { module := "m" } awkwardOperations {} listed
  unfold Meets at named
  cases run : outcome (emitOperations plainSetting { module := "m" } [] awkwardOperations) {} with
  | mk result w =>
    rw [run] at names named
    cases result with
    | error e => simp [Except.toOption] at names
    | ok r => exact ⟨listed, r, w, rfl, named, Option.some.inj names⟩

end ClientGen.Emission
