import ClientGen.Json.Writer
import ClientGen.Naming
import ClientGen.Proofs.Json.Literals

/-!
# Tokens

The tokens that a reader of the generated language finds in a declaration: words, marks and literals of
texts. White space and block comments are passed over, and what is none of these is refused.
-/

namespace ClientGen.TypeScript

open Json Naming Text

/-- A token. -/
inductive Token
  | word (w : String)
  | mark (c : Char)
  | literal (s : String)
  deriving DecidableEq, Repr

/-- The text of a literal. -/
def Token.text? : Token → Option String
  | .literal s => some s
  | _ => none

/-- The texts of the literals among some tokens. -/
def literals (ts : List Token) : List String :=
  ts.filterMap Token.text?

/-- The marks of declarations. -/
def isMark (c : Char) : Bool :=
  c ∈ ['=', '|', ';', ',', '.', '(', ')', '[', ']']

/-- What is behind a comment, from the inside of it. -/
def behindComment : List Char → Option (List Char)
  | [] => none
  | '*' :: '/' :: rest => some rest
  | _ :: rest => behindComment rest

/-- The token in front of a text and what is behind it. White space and comments have none. -/
def nextToken : List Char → Option (List Token × List Char)
  | [] => none
  | '"' :: rest =>
    match readText 0 rest with
    | .ok (s, left) => some ([.literal (String.ofList s)], left)
    | .error _ => none
  | '/' :: '*' :: rest => (behindComment rest).map fun left => ([], left)
  | c :: rest =>
    if isSpace c then some ([], rest)
    else if isIdentifierPart c then
      some ([.word (String.ofList (c :: rest.takeWhile isIdentifierPart))],
        rest.dropWhile isIdentifierPart)
    else if isMark c then some ([.mark c], rest)
    else none

variable {c : Char} {s t rest : List Char} {ts us : List Token} {v : String}

lemma length_behindComment (h : behindComment s = some t) : t.length < s.length := by
  fun_induction behindComment s with
  | case1 => cases h
  | case2 rest =>
    obtain rfl := Option.some.inj h
    simp only [List.length_cons]
    omega
  | case3 c rest _ ih =>
    have := ih h
    simp only [List.length_cons]
    omega

/-- What is behind a token is shorter. -/
lemma length_nextToken (h : nextToken s = some (ts, rest)) : rest.length < s.length := by
  unfold nextToken at h
  split at h
  · cases h
  · split at h
    · next form =>
      obtain ⟨-, rfl⟩ := Prod.mk.inj (Option.some.inj h)
      have := (readsText_of_readText form).suffix.length_le
      simp only [List.length_cons]
      omega
    · cases h
  · obtain ⟨left, form, same⟩ := Option.map_eq_some_iff.1 h
    obtain ⟨-, rfl⟩ := Prod.mk.inj same
    have := length_behindComment form
    simp only [List.length_cons]
    omega
  · next c behind _ _ =>
    have shorter := (List.dropWhile_suffix (l := behind) isIdentifierPart).length_le
    split_ifs at h
    all_goals
      obtain ⟨-, rfl⟩ := Prod.mk.inj (Option.some.inj h)
      simp only [List.length_cons]
      omega

/-- The tokens of a text, unless something in it is none. -/
def tokens (s : List Char) : Option (List Token) :=
  if s.isEmpty then some []
  else
    match _h : nextToken s with
    | none => none
    | some (ts, rest) => (ts ++ ·) <$> tokens rest
termination_by s.length
decreasing_by exact length_nextToken _h

lemma tokens_nil : tokens [] = some [] := by
  rw [tokens]
  rfl

lemma tokens_of_next (h : nextToken s = some (ts, rest)) :
    tokens s = (ts ++ ·) <$> tokens rest := by
  have some : s.isEmpty = false := by
    cases s with
    | nil => cases h
    | cons c s => rfl
  rw [tokens, if_neg (by simp [some])]
  split
  · next none => simp [none] at h
  · next form =>
    rw [h] at form
    obtain ⟨rfl, rfl⟩ := Prod.mk.inj (Option.some.inj form)
    rfl

/-! ### Texts with tokens of their own -/

/-- A text has some tokens whatever is behind it. -/
def HasTokens (s : List Char) (ts : List Token) : Prop :=
  ∀ rest, tokens (s ++ rest) = (ts ++ ·) <$> tokens rest

lemma HasTokens.tokens (h : HasTokens s ts) : tokens s = some ts := by
  have whole := h []
  rw [List.append_nil, tokens_nil] at whole
  rw [whole, Option.map_eq_map, Option.map_some, List.append_nil]

lemma hasTokens_nil : HasTokens [] [] := by
  intro rest
  simp

lemma HasTokens.append (hs : HasTokens s ts) (ht : HasTokens t us) :
    HasTokens (s ++ t) (ts ++ us) := by
  intro rest
  rw [List.append_assoc, hs, ht]
  simp only [Option.map_eq_map, Option.map_map, Function.comp_def, List.append_assoc]

/-- A text with one token, or none, in front of whatever is behind it. -/
lemma hasTokens_of_next (h : ∀ rest, nextToken (s ++ rest) = some (ts, rest)) : HasTokens s ts :=
  fun rest => tokens_of_next (h rest)

/-- What starts with neither a quote nor a slash is neither a literal nor a comment. -/
lemma nextToken_cons (quote : c ≠ '"') (slash : c ≠ '/') : nextToken (c :: rest) =
    if isSpace c then some ([], rest)
    else if isIdentifierPart c then
      some ([.word (String.ofList (c :: rest.takeWhile isIdentifierPart))],
        rest.dropWhile isIdentifierPart)
    else if isMark c then some ([.mark c], rest)
    else none := by
  rw [nextToken]
  · exact quote
  · exact fun _ same _ => slash same

lemma hasTokens_space (h : isSpace c = true) : HasTokens [c] [] := by
  have quote : c ≠ '"' := by
    rintro rfl
    exact absurd h (by decide)
  have slash : c ≠ '/' := by
    rintro rfl
    exact absurd h (by decide)
  refine hasTokens_of_next fun rest => ?_
  rw [List.singleton_append, nextToken_cons quote slash, if_pos h]

lemma hasTokens_mark (h : isMark c = true) : HasTokens [c] [.mark c] := by
  have others : ['=', '|', ';', ',', '.', '(', ')', '[', ']'].all (fun d =>
      d != '"' && d != '/' && !isSpace d && !isIdentifierPart d) = true := by decide
  have other := List.all_eq_true.1 others c (by simpa [isMark] using h)
  obtain ⟨⟨⟨quote, slash⟩, space⟩, part⟩ : ((c ≠ '"' ∧ c ≠ '/') ∧ isSpace c = false) ∧
    isIdentifierPart c = false := by simpa using other
  refine hasTokens_of_next fun rest => ?_
  rw [List.singleton_append, nextToken_cons quote slash, if_neg (by simp [space]),
    if_neg (by simp [part]), if_pos h]

/-- A word in front of what does not go on with it. -/
lemma nextToken_word (w : String) (some : w ≠ "") (all : w.toList.all isIdentifierPart = true)
    (stop : rest.takeWhile isIdentifierPart = []) :
    nextToken (w.toList ++ rest) = .some ([.word w], rest) := by
  obtain ⟨d, v, chars⟩ := List.exists_cons_of_ne_nil (mt String.toList_eq_nil_iff.1 some)
  rw [chars] at all
  obtain ⟨part, parts⟩ := List.forall_mem_cons.1 (List.all_eq_true.1 all)
  have ne {e : Char} (he : isIdentifierPart e = false) : d ≠ e := by
    rintro rfl
    rw [part] at he
    cases he
  have space : isSpace d = false := by
    simp only [isSpace, Bool.or_eq_false_iff, beq_eq_false_iff_ne]
    exact ⟨⟨⟨ne (by decide), ne (by decide)⟩, ne (by decide)⟩, ne (by decide)⟩
  have behind : rest.dropWhile isIdentifierPart = rest := by
    have both := List.takeWhile_append_dropWhile (p := isIdentifierPart) (l := rest)
    rwa [stop, List.nil_append] at both
  rw [chars, List.cons_append, nextToken_cons (ne (by decide)) (ne (by decide)),
    if_neg (by simp [space]), if_pos part, List.takeWhile_append_of_pos parts,
    List.dropWhile_append_of_pos parts, stop, behind, List.append_nil, ← chars,
    String.ofList_toList]

/-- A word that something else follows. -/
lemma hasTokens_word (w : String) (some : w ≠ "") (all : w.toList.all isIdentifierPart = true)
    (other : isIdentifierPart c = false) (hs : HasTokens (c :: s) ts) :
    HasTokens (w.toList ++ c :: s) (.word w :: ts) := by
  intro rest
  have next : nextToken (w.toList ++ (c :: s ++ rest)) = Option.some ([.word w], c :: s ++ rest) :=
    nextToken_word w some all (List.takeWhile_cons_of_neg (by simp [other]))
  rw [List.append_assoc, tokens_of_next next, hs]
  simp only [Option.map_eq_map, Option.map_map, Function.comp_def, List.cons_append,
    List.nil_append]

/-- A word alone. -/
lemma tokens_word (w : String) (some : w ≠ "") (all : w.toList.all isIdentifierPart = true) :
    tokens w.toList = .some [.word w] := by
  have next : nextToken (w.toList ++ []) = .some ([.word w], []) :=
    nextToken_word w some all rfl
  rw [List.append_nil] at next
  rw [tokens_of_next next, tokens_nil]
  rfl

/-- The literal of a text, in either form. -/
lemma hasTokens_literal {ascii : Bool} (h : Kept v.toList)
    (unpaired : ascii = true → IsUnpaired (numbers v.toList)) :
    HasTokens (literalChars ascii v.toList) [.literal v] := by
  refine hasTokens_of_next fun rest => ?_
  have whole : readText 0 ((numbers v.toList).flatMap (escaped ascii) ++ '"' :: rest) =
    .ok (v.toList, rest) := readText_literal h unpaired
  have chars : literalChars ascii v.toList ++ rest =
      '"' :: ((numbers v.toList).flatMap (escaped ascii) ++ '"' :: rest) := by
    simp [literalChars]
  rw [chars, nextToken, whole]
  simp

lemma hasTokens_quote (h : Kept v.toList) : HasTokens (quote v).toList [.literal v] := by
  rw [quote, String.toList_ofList]
  exact hasTokens_literal h nofun

/-- A comment that has no end inside. -/
lemma behindComment_append (h : ¬ ['*', '/'] <:+: s) :
    behindComment (s ++ ' ' :: '*' :: '/' :: rest) = some rest := by
  induction s with
  | nil => rfl
  | cons c s ih =>
    rw [List.infix_cons_iff, not_or] at h
    rw [List.cons_append, behindComment, ih h.2]
    rintro more rfl form
    refine h.1 ?_
    cases s with
    | nil => simp at form
    | cons d s => simp_all

lemma hasTokens_comment (h : ¬ ['*', '/'] <:+: s) :
    HasTokens ("/** ".toList ++ s ++ " */".toList) [] := by
  refine hasTokens_of_next fun rest => ?_
  have inside : ¬ ['*', '/'] <:+: '*' :: ' ' :: s := by
    simp [List.infix_cons_iff, h]
  have chars : "/** ".toList ++ s ++ " */".toList ++ rest =
      '/' :: '*' :: ('*' :: ' ' :: s ++ ' ' :: '*' :: '/' :: rest) := by
    simp
  rw [chars, nextToken, behindComment_append inside]
  rfl

end ClientGen.TypeScript
