import ClientGen.Proofs.Naming.Identifiers
import ClientGen.Proofs.Template.Pieces
import ClientGen.Proofs.Text.Comment
import ClientGen.Proofs.TypeScript.Tokens

/-!
# Enumerations as they are written

The literals of an enumeration are read back from its type and from its validator, whatever the values
and the description are.
-/

namespace ClientGen.TypeScript

open Document Json Naming Template Text

variable {name : String} {values : List String} {description : Option String} {scope : Scope}

/-! ### Texts -/

/-- The comment of a description, with the end of its line. -/
def descriptionText (description : Option String) : String :=
  let s := description.getD ""
  if s.isEmpty then "" else "/** " ++ commentText s ++ " */\n"

/-- The type of an enumeration, word for word. -/
def unionText (name : String) (values : List String) (description : Option String) : String :=
  descriptionText description ++ "export type " ++ name ++ " =\n" ++
    " |\n".intercalate (values.map fun v => "  " ++ quote v) ++ ";"

/-- The validator of an enumeration, word for word. -/
def choiceText (name : String) (values : List String) : String :=
  "export const " ++ name ++ " = z.enum([" ++ ", ".intercalate (values.map quote) ++ "]);"

lemma render_described (found : valueOfName? scope "description" = some (.ofText? description)) :
    (described "description").render scope = .ok (descriptionText description) := by
  have value : (Expr.name "description").eval scope = .ok (.ofText? description) := by
    rw [Expr.eval, found]
  unfold described
  rw [render_when value]
  cases description with
  | none => rfl
  | some s =>
    have comment : (Piece.hole (.filtered .comment (.name "description"))).render scope =
        .ok (commentText s) := by
      refine render_text ?_
      simp only [Expr.eval, found]
      rfl
    by_cases empty : s.isEmpty
    · simp [Value.ofText?, Value.truthy, descriptionText, empty]
    · simp [Value.ofText?, Value.truthy, descriptionText, empty, renderAll, comment, render_literal,
        bind, Except.bind, pure, Except.pure, String.append_assoc]

/-- The lines of the values have a bar between them and a semicolon at the end. -/
lemma join_lines {k : Nat} (some : values ≠ []) :
    String.join ((values.zipIdx k).map fun p => "  " ++ quote p.1 ++
        (if p.2 + 1 == k + values.length then ";" else " |") ++ "\n") =
      " |\n".intercalate (values.map fun v => "  " ++ quote v) ++ ";" ++ "\n" := by
  induction values generalizing k with
  | nil => exact absurd rfl some
  | cons v values ih =>
    cases values with
    | nil => simp
    | cons u values =>
      have rest := @ih (k + 1) (by simp)
      have count : k + (v :: u :: values).length = k + 1 + (u :: values).length := by
        simp only [List.length_cons]
        omega
      rw [List.zipIdx_cons, List.map_cons, String.join_cons, count, rest]
      simp [String.append_assoc, String.intercalate_cons_cons]

/-- The line of a value. -/
lemma renderAll_line {v : String} {last : Bool} :
    renderAll (("value", .str v) :: ("loop", loopEntry last) :: scope)
      [.text "  ", .hole (.filtered .json (.name "value")),
       .hole (.choice (.text ";") (.field (.name "loop") "last") (.text " |")), .text "\n"] =
      .ok ("  " ++ quote v ++ (if last then ";" else " |") ++ "\n") := by
  have literal : (Piece.hole (.filtered .json (.name "value"))).render
      (("value", .str v) :: ("loop", loopEntry last) :: scope) = .ok (quote v) := render_json rfl
  have mark : (Piece.hole (.choice (.text ";") (.field (.name "loop") "last") (.text " |"))).render
      (("value", .str v) :: ("loop", loopEntry last) :: scope) =
      .ok (if last then ";" else " |") := by
    cases last <;> rfl
  simp only [renderAll, literal, mark, render_literal, bind, Except.bind, pure, Except.pure,
    String.append_empty, String.append_assoc]

lemma render_lines (some : values ≠ [])
    (found : valueOfName? scope "values" = Option.some (.texts values)) :
    (Piece.each "value" (.name "values")
      [.text "  ", .hole (.filtered .json (.name "value")),
       .hole (.choice (.text ";") (.field (.name "loop") "last") (.text " |")),
       .text "\n"] true).render scope =
      .ok (" |\n".intercalate (values.map fun v => "  " ++ quote v) ++ ";" ++ "\n") := by
  have items : (Expr.name "values").eval scope = .ok (.list (values.map .str)) := by
    rw [Expr.eval, found]
    rfl
  have joined := join_lines (k := 0) some
  rw [Nat.zero_add] at joined
  rw [render_loop items fun v _ last => renderAll_line, joined]

/-- The literals of some values. -/
lemma eval_literals (found : valueOfName? scope "values" = some (.texts values)) :
    (Expr.filtered .mapJson (.name "values")).eval scope = .ok (.texts (values.map quote)) := by
  simp only [Expr.eval, found]
  cases values with
  | nil => rfl
  | cons v values =>
    have each : (values.map Value.str).map (fun item => Value.str (jsonText item)) =
        (values.map quote).map .str := by
      rw [List.map_map, List.map_map]
      rfl
    have whole : (Filter.mapJson).apply (.texts (v :: values)) =
      .ok (.list (.str (quote v) :: (values.map Value.str).map
        fun item => Value.str (jsonText item))) := rfl
    rw [whole, each]
    rfl

/-- What is rendered is written without the end of its last line. -/
lemma writeDeclaration_of_render {δ : Type} [Declares δ] {d : δ} {s tail : String}
    (h : (builtin (Declares.template d)).render (Declares.context d) = .ok (s ++ tail ++ "\n"))
    (ends : tail.toList.getLast?.any (· != '\n') = true) :
    writeDeclaration builtin d = .ok ⟨d, s ++ tail⟩ := by
  rw [writeDeclaration, h]
  change Except.ok (Written.mk d (withoutLastLines (s ++ tail ++ "\n"))) = _
  rw [withoutLastLines_append s ends]

lemma writeDeclaration_union (some : values ≠ []) :
    writeDeclaration builtin (TypeDeclaration.enumeration name values description) =
      .ok ⟨.enumeration name values description, unionText name values description⟩ := by
  let context : Scope := Declares.context (TypeDeclaration.enumeration name values description)
  have run : (builtin .typeEnum).render context = renderAll context typeEnum :=
    if_neg Bool.false_ne_true
  have comment : (described "description").render context = _ := render_described rfl
  have title : (shown "name").render context = .ok name := render_shown rfl
  have lines : (Piece.each "value" (.name "values") _ true).render context = _ :=
    render_lines some rfl
  have whole : (builtin .typeEnum).render context =
      .ok (descriptionText description ++ "export type " ++ name ++ " =\n" ++
        " |\n".intercalate (values.map fun v => "  " ++ quote v) ++ ";" ++ "\n") := by
    rw [run, typeEnum]
    simp only [renderAll, comment, title, lines, render_literal, bind, Except.bind, pure,
      Except.pure, String.append_empty, String.append_assoc]
  exact writeDeclaration_of_render whole (by decide)

lemma writeDeclaration_choice :
    writeDeclaration builtin (ValidatorDeclaration.enumeration name values) =
      .ok ⟨.enumeration name values, choiceText name values⟩ := by
  let context : Scope := Declares.context (ValidatorDeclaration.enumeration name values)
  have run : (builtin .zodEnum).render context = renderAll context zodEnum :=
    if_neg Bool.false_ne_true
  have title : (shown "name").render context = .ok name := render_shown rfl
  have choices : (Piece.hole (.filtered (.join ", ") (.filtered .mapJson (.name "values")))).render
    context = _ := render_texts (eval_literals rfl)
  have whole : (builtin .zodEnum).render context =
      .ok ("export const " ++ name ++ " = z.enum([" ++ ", ".intercalate (values.map quote) ++
        "]);" ++ "\n") := by
    rw [run, zodEnum]
    simp only [renderAll, title, choices, render_literal, bind, Except.bind, pure, Except.pure,
      String.append_empty, String.append_assoc]
    rfl
  exact writeDeclaration_of_render whole (by decide)

/-! ### Tokens -/

/-- The literals of some values with a mark between them. -/
def marked (c : Char) (values : List String) : List Token :=
  [.mark c].intercalate (values.map fun v => [.literal v])

/-- The tokens of the type of an enumeration. -/
def unionTokens (name : String) (values : List String) : List Token :=
  [.word "export", .word "type", .word name, .mark '='] ++ marked '|' values ++ [.mark ';']

/-- The tokens of the validator of an enumeration. -/
def choiceTokens (name : String) (values : List String) : List Token :=
  [.word "export", .word "const", .word name, .mark '=', .word "z", .mark '.', .word "enum",
    .mark '(', .mark '['] ++ marked ',' values ++ [.mark ']', .mark ')', .mark ';']

/-- Texts with tokens, and between them a text with a mark. -/
lemma hasTokens_intercalate {c : Char} {separator : String} {f : String → String}
    (between : HasTokens separator.toList [.mark c])
    (each : ∀ v ∈ values, HasTokens (f v).toList [.literal v]) :
    HasTokens (separator.intercalate (values.map f)).toList (marked c values) := by
  induction values with
  | nil => exact hasTokens_nil
  | cons v values ih =>
    obtain ⟨hv, others⟩ := List.forall_mem_cons.1 each
    cases values with
    | nil => simpa [marked] using hv
    | cons u values =>
      have rest := (hv.append between).append (ih others)
      simpa [marked, String.intercalate_cons_cons, List.intercalate_cons_cons] using rest

lemma hasTokens_descriptionText (description : Option String) :
    HasTokens (descriptionText description).toList [] := by
  unfold descriptionText
  dsimp only
  split
  · exact hasTokens_nil
  · have comment := hasTokens_comment (isCommentOf_commentText (description.getD "")).noEnd
    have whole := comment.append (hasTokens_space (c := '\n') (by decide))
    simpa using whole

/-- The literals among the tokens are the values. -/
lemma filterMap_marked (c : Char) : (marked c values).filterMap Token.text? = values := by
  induction values with
  | nil => rfl
  | cons v values ih =>
    cases values with
    | nil => rfl
    | cons u values =>
      have rest : (marked c (v :: u :: values)).filterMap Token.text? =
          v :: (marked c (u :: values)).filterMap Token.text? := by
        simp [marked, List.filterMap_cons, Token.text?, List.intercalate_cons_cons]
      rw [rest, ih]

lemma literals_unionTokens : literals (unionTokens name values) = values := by
  simp [literals, unionTokens, List.filterMap_cons, Token.text?, filterMap_marked]

lemma literals_choiceTokens : literals (choiceTokens name values) = values := by
  simp [literals, choiceTokens, List.filterMap_cons, Token.text?, filterMap_marked]

/-- An identifier that something else follows. -/
lemma hasTokens_identifier {c : Char} {s : List Char} {ts : List Token} (hn : IsIdentifier name)
    (other : isIdentifierPart c = false) (hs : HasTokens (c :: s) ts) :
    HasTokens (name.toList ++ c :: s) (.word name :: ts) := by
  obtain ⟨d, cs, chars, start, parts⟩ := hn
  have some : name ≠ "" := by
    rintro rfl
    cases chars
  refine hasTokens_word name some ?_ other hs
  rw [chars]
  refine List.all_eq_true.2 (List.forall_mem_cons.2 ⟨?_, parts⟩)
  have letter : d.isAlpha = true ∨ d = '_' ∨ d = '$' := by
    simpa [isIdentifierStart, or_assoc] using start
  obtain letter | rfl | rfl := letter
  · simp [isIdentifierPart, Char.isAlphanum, letter]
  · decide
  · decide

/-- A name that is declared with a keyword. -/
lemma hasTokens_opening (keyword : String) (some : keyword ≠ "")
    (all : keyword.toList.all isIdentifierPart = true) (hn : IsIdentifier name) :
    HasTokens ("export " ++ keyword ++ " " ++ name ++ " =").toList
      [.word "export", .word keyword, .word name, .mark '='] := by
  have space : HasTokens [' '] [] := hasTokens_space (by decide)
  have exported := hasTokens_word "export" (by decide) (by decide) (by decide) space
  have kind := hasTokens_word keyword some all (by decide) space
  have title := hasTokens_identifier hn (by decide) (space.append (hasTokens_mark (c := '=') rfl))
  simpa using (exported.append kind).append title

lemma tokens_unionText (hn : IsIdentifier name) (kept : ∀ v ∈ values, Kept v.toList) :
    tokens (unionText name values description).toList = some (unionTokens name values) := by
  have space : HasTokens [' '] [] := hasTokens_space rfl
  have feed : HasTokens ['\n'] [] := hasTokens_space rfl
  have opening := (hasTokens_opening "type" (by decide) (by decide) hn).append feed
  have bar : HasTokens " |\n".toList [.mark '|'] :=
    (space.append (hasTokens_mark (c := '|') rfl)).append feed
  have choices : HasTokens (" |\n".intercalate (values.map fun v => "  " ++ quote v)).toList
      (marked '|' values) := by
    refine hasTokens_intercalate bar fun v hv => ?_
    simpa using (space.append space).append (hasTokens_quote (kept v hv))
  have closing : HasTokens ";".toList [.mark ';'] := hasTokens_mark rfl
  have comment := hasTokens_descriptionText description
  refine HasTokens.tokens ?_
  simpa [unionText, unionTokens] using (comment.append opening).append (choices.append closing)

lemma tokens_choiceText (hn : IsIdentifier name) (kept : ∀ v ∈ values, Kept v.toList) :
    tokens (choiceText name values).toList = some (choiceTokens name values) := by
  have space : HasTokens [' '] [] := hasTokens_space rfl
  have opening := (hasTokens_opening "const" (by decide) (by decide) hn).append space
  have library := hasTokens_word "z" (by decide) (by decide) (by decide)
    (hasTokens_mark (c := '.') rfl)
  have call := hasTokens_word "enum" (by decide) (by decide) (by decide)
    ((hasTokens_mark (c := '(') rfl).append (hasTokens_mark (c := '[') rfl))
  have choices : HasTokens (", ".intercalate (values.map quote)).toList (marked ',' values) :=
    hasTokens_intercalate ((hasTokens_mark (c := ',') rfl).append space) fun v hv =>
      hasTokens_quote (kept v hv)
  have closing : HasTokens "]);".toList [.mark ']', .mark ')', .mark ';'] :=
    ((hasTokens_mark (c := ']') rfl).append (hasTokens_mark (c := ')') rfl)).append
      (hasTokens_mark (c := ';') rfl)
  refine HasTokens.tokens ?_
  simpa [choiceText, choiceTokens] using
    (opening.append (library.append call)).append (choices.append closing)

/-- No description and no value breaks out of the text that it is put in. A comment has the words of
its text on one line and ends behind them, and the values of an enumeration, whatever it is called and
however it is described, are what a reader finds between the marks of its type and of its validator. -/
theorem texts_stay_inside (s : String) (description : Option String) (hn : IsIdentifier name)
    (some : values ≠ []) (kept : ∀ v ∈ values, Kept v.toList) :
    IsCommentOf s (commentText s) ∧
      (∃ d, writeDeclaration builtin (TypeDeclaration.enumeration name values description) = .ok d ∧
        tokens d.content.toList = Option.some (unionTokens name values) ∧
        literals (unionTokens name values) = values) ∧
      ∃ d, writeDeclaration builtin (ValidatorDeclaration.enumeration name values) = .ok d ∧
        tokens d.content.toList = Option.some (choiceTokens name values) ∧
        literals (choiceTokens name values) = values :=
  ⟨isCommentOf_commentText s,
    ⟨_, writeDeclaration_union some, tokens_unionText hn kept, literals_unionTokens⟩,
    ⟨_, writeDeclaration_choice, tokens_choiceText hn kept, literals_choiceTokens⟩⟩

/-- Values with the very marks in them that stand between values, and a description that would end its
comment. -/
theorem texts_stay_inside_marks : ∃ s, commentText s = "no *\\/ end \"here" ∧
    IsCommentOf s (commentText s) ∧
    (∃ d, writeDeclaration builtin (TypeDeclaration.enumeration "Mark"
        ["\" | \"", "\\\",", "]);\n*/"] (some s)) = .ok d ∧
      (tokens d.content.toList).map literals = some ["\" | \"", "\\\",", "]);\n*/"]) ∧
    ∃ d, writeDeclaration builtin (ValidatorDeclaration.enumeration "Mark"
        ["\" | \"", "\\\",", "]);\n*/"]) = .ok d ∧
      (tokens d.content.toList).map literals = some ["\" | \"", "\\\",", "]);\n*/"] := by
  have name : IsIdentifier "Mark" :=
    ⟨'M', ['a', 'r', 'k'], by decide, by decide, List.all_eq_true.1 (by decide)⟩
  have kept : ∀ v ∈ ["\" | \"", "\\\",", "]);\n*/"], Kept v.toList := by
    have plain : ∀ v ∈ ["\" | \"", "\\\",", "]);\n*/"], halfMark ∉ v.toList := by decide
    exact fun v hv => kept_of_notMem (plain v hv)
  obtain ⟨comment, ⟨d, written, found, same⟩, ⟨e, written', found', same'⟩⟩ :=
    texts_stay_inside "no */ \n end\t\"here" (some "no */ \n end\t\"here") name (by decide) kept
  exact ⟨_, by decide +kernel, comment, ⟨d, written, by rw [found, Option.map_some, same]⟩,
    ⟨e, written', by rw [found', Option.map_some, same']⟩⟩

end ClientGen.TypeScript
