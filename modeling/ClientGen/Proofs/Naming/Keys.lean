import ClientGen.Proofs.Json.Records
import ClientGen.Proofs.Json.Values
import ClientGen.Proofs.Naming.Identifiers
import ClientGen.Proofs.Plan.ArgumentNames
import ClientGen.Proofs.TypeScript.Tokens

/-!
# Keys and arguments

A key is the name of the property itself where that is an identifier, and a literal of it otherwise.
An argument has a name that is made an identifier and no reserved word. Both are so unless the name
is an identifier with a line feed behind it, which passes for an identifier and is written as it is.
And two halves of a pair in a row are read as the pair from their literal.
-/

namespace ClientGen.Naming

open Document Emission Json Text TypeScript

variable {s t n m : String}

/-! ### What passes for an identifier -/

/-- An identifier with a line feed behind it. -/
def HasLineFeed (s : String) : Prop :=
  ∃ n, IsIdentifier n ∧ s = n ++ "\n"

lemma isIdentifierTail_iff : ∀ {cs : List Char}, isIdentifierTail cs = true ↔
    (∀ c ∈ cs, isIdentifierPart c = true) ∨
      ∃ ds, (∀ d ∈ ds, isIdentifierPart d = true) ∧ cs = ds ++ ['\n']
  | [] => by simp [isIdentifierTail]
  | c :: cs => by
    rw [isIdentifierTail, Bool.or_eq_true, Bool.and_eq_true, Bool.and_eq_true, beq_iff_eq,
      List.isEmpty_iff, isIdentifierTail_iff, List.forall_mem_cons]
    constructor
    · rintro (⟨part, parts | ⟨ds, parts, rfl⟩⟩ | ⟨rfl, rfl⟩)
      · exact .inl ⟨part, parts⟩
      · exact .inr ⟨c :: ds, List.forall_mem_cons.2 ⟨part, parts⟩, rfl⟩
      · exact .inr ⟨[], by simp, rfl⟩
    · rintro (⟨part, parts⟩ | ⟨ds, parts, form⟩)
      · exact .inl ⟨part, .inl parts⟩
      · cases ds with
        | nil =>
          obtain ⟨rfl, rfl⟩ := List.cons.inj form
          exact .inr ⟨rfl, rfl⟩
        | cons d ds =>
          obtain ⟨rfl, rfl⟩ := List.cons.inj form
          obtain ⟨part, parts⟩ := List.forall_mem_cons.1 parts
          exact .inl ⟨part, .inr ⟨ds, parts, rfl⟩⟩

/-- What passes for an identifier is one, or one with a line feed behind it. -/
lemma isIdentifier_iff_or : isIdentifier s = true ↔ IsIdentifier s ∨ HasLineFeed s := by
  constructor
  · intro passes
    unfold isIdentifier at passes
    cases chars : s.toList with
    | nil => simp [chars] at passes
    | cons c cs =>
      rw [chars, Bool.and_eq_true, isIdentifierTail_iff] at passes
      obtain ⟨start, parts | ⟨ds, parts, rfl⟩⟩ := passes
      · exact .inl ⟨c, cs, chars, start, parts⟩
      · refine .inr ⟨String.ofList (c :: ds), ⟨c, ds, String.toList_ofList, start, parts⟩, ?_⟩
        rw [← String.toList_inj, String.toList_append, String.toList_ofList, chars]
        rfl
  · rintro (own | ⟨n, ⟨c, cs, chars, start, parts⟩, rfl⟩)
    · exact own.isIdentifier
    · unfold isIdentifier
      rw [String.toList_append, chars]
      change (isIdentifierStart c && isIdentifierTail (cs ++ ['\n'])) = true
      rw [start, isIdentifierTail_iff.2 (.inr ⟨cs, parts, rfl⟩)]
      rfl

lemma IsIdentifier.parts (h : IsIdentifier n) : ∀ c ∈ n.toList, isIdentifierPart c = true := by
  obtain ⟨c, cs, chars, start, parts⟩ := h
  rw [chars]
  refine List.forall_mem_cons.2 ⟨?_, parts⟩
  simp only [isIdentifierStart, Bool.or_eq_true] at start
  simp only [isIdentifierPart, Char.isAlphanum, Bool.or_eq_true]
  tauto

lemma IsIdentifier.ne_empty (h : IsIdentifier n) : n ≠ "" := by
  rintro rfl
  obtain ⟨c, cs, chars, -, -⟩ := h
  cases chars

/-- With a line feed behind it an identifier is none. -/
lemma HasLineFeed.not_isIdentifier (h : HasLineFeed s) : ¬ IsIdentifier s := by
  obtain ⟨n, -, rfl⟩ := h
  intro own
  have feed := own.parts '\n' (by simp)
  exact absurd feed (by decide)

/-- An identifier consists of ASCII characters, and so its numbers are those of no halves. -/
lemma IsIdentifier.isWhole (h : IsIdentifier n) : IsWhole n := by
  refine isWhole_of_notMem fun mark => ?_
  exact absurd (h.parts halfMark mark) (by decide)

/-! ### Keys -/

/-- A key that is well formed: it is the name itself, which is an identifier, or a literal in double
quotes that is read as the name. -/
def IsKeyOf (key s : String) : Prop :=
  key = s ∧ IsIdentifier s ∨
    (∃ inner, key.toList = '"' :: (inner ++ ['"'])) ∧ Json.read key = .ok (.str s)

/-- The name of the property that a key is read as. -/
def keyName? (key : String) : Option String :=
  match tokens key.toList with
  | some [.word w] => some w
  | some [.literal v] => some v
  | _ => none

lemma propertyKey_of_passing (h : IsIdentifier s ∨ HasLineFeed s) : propertyKey s = s := by
  rw [propertyKey, if_pos (isIdentifier_iff_or.2 h)]

lemma propertyKey_of_other (h : ¬ (IsIdentifier s ∨ HasLineFeed s)) :
    propertyKey s = quoteAscii s := by
  rw [propertyKey, if_neg (mt isIdentifier_iff_or.1 h)]

/-- A text that its literal is read as has no pair of halves. -/
lemma read_quoteAscii_iff (hs : Kept s.toList) :
    Json.read (quoteAscii s) = .ok (.str s) ↔ IsUnpaired (numbers s.toList) := by
  constructor
  · intro read
    have plain : HasNoHalf (quoteAscii s).toList := hasNoHalf_of_notMem fun mark =>
      (isPlain_quoteAscii s _ mark).ne_halfMark rfl
    cases isRead_of_read read plain with
    | text whole => exact whole.unpaired
  · exact fun unpaired => read_quoteAscii ⟨hs, unpaired⟩

/-- The key of a name is well formed unless the name is an identifier with a line feed behind it or
has a pair of halves. -/
lemma isKeyOf_propertyKey_iff (hs : Kept s.toList) : IsKeyOf (propertyKey s) s ↔
    ¬ HasLineFeed s ∧ IsUnpaired (numbers s.toList) := by
  by_cases feed : HasLineFeed s
  · rw [propertyKey_of_passing (.inr feed)]
    refine iff_of_false ?_ fun h => h.1 feed
    rintro (⟨-, own⟩ | ⟨⟨inner, quoted⟩, -⟩)
    · exact feed.not_isIdentifier own
    · obtain ⟨n, ⟨c, cs, chars, start, -⟩, rfl⟩ := feed
      rw [String.toList_append, chars] at quoted
      obtain rfl := (List.cons.inj quoted).1
      exact absurd start (by decide)
  · by_cases own : IsIdentifier s
    · rw [propertyKey_of_passing (.inl own)]
      exact iff_of_true (.inl ⟨rfl, own⟩) ⟨feed, own.isWhole.unpaired⟩
    · rw [propertyKey_of_other (not_or.2 ⟨own, feed⟩), ← read_quoteAscii_iff hs]
      constructor
      · rintro (⟨-, own'⟩ | ⟨-, read⟩)
        · exact absurd own' own
        · exact ⟨feed, read⟩
      · exact fun h => .inr ⟨⟨_, toList_quoteAscii s⟩, h.2⟩

/-- An identifier is read as itself, with a line feed behind it too. -/
lemma keyName?_of_isIdentifier (h : IsIdentifier n) :
    keyName? (propertyKey n) = some n ∧ keyName? (propertyKey (n ++ "\n")) = some n := by
  have all : n.toList.all isIdentifierPart = true := List.all_eq_true.2 h.parts
  have behind : tokens (n ++ "\n").toList = some [.word n] := by
    rw [String.toList_append]
    exact (hasTokens_word n h.ne_empty all (by decide) (hasTokens_space (by decide))).tokens
  rw [propertyKey_of_passing (.inl h), propertyKey_of_passing (.inr ⟨n, h, rfl⟩), keyName?,
    keyName?, tokens_word n h.ne_empty all, behind]
  exact ⟨rfl, rfl⟩

/-- A key is read as the name, or as the identifier that the name is but for a line feed. -/
lemma exists_keyName (hs : Kept s.toList) (unpaired : IsUnpaired (numbers s.toList)) :
    ∃ m, keyName? (propertyKey s) = some m ∧ (s = m ∨ IsIdentifier m ∧ s = m ++ "\n") := by
  by_cases passes : IsIdentifier s ∨ HasLineFeed s
  · obtain own | ⟨n, own, rfl⟩ := passes
    · exact ⟨s, (keyName?_of_isIdentifier own).1, .inl rfl⟩
    · exact ⟨n, (keyName?_of_isIdentifier own).2, .inr ⟨own, rfl⟩⟩
  · refine ⟨s, ?_, .inl rfl⟩
    have literal : tokens (literalChars true s.toList) = some [.literal s] :=
      (hasTokens_literal hs fun _ => unpaired).tokens
    rw [propertyKey_of_other passes, keyName?, quoteAscii, String.toList_ofList, literal]

/-- The two names are one identifier, but for line feeds behind it. -/
def SameButLineFeed (s t : String) : Prop :=
  ∃ n, IsIdentifier n ∧ (s = n ∨ s = n ++ "\n") ∧ (t = n ∨ t = n ++ "\n")

/-- Keys are read the same if and only if their names are the same, but for a line feed behind an
identifier. -/
lemma keyName?_eq_iff (hs : Kept s.toList) (ht : Kept t.toList)
    (unpaired : IsUnpaired (numbers s.toList)) (unpaired' : IsUnpaired (numbers t.toList)) :
    keyName? (propertyKey s) = keyName? (propertyKey t) ↔ s = t ∨ SameButLineFeed s t := by
  constructor
  · intro same
    obtain ⟨m, hm, form⟩ := exists_keyName hs unpaired
    obtain ⟨m', hm', form'⟩ := exists_keyName ht unpaired'
    obtain rfl : m = m' := Option.some.inj (hm.symm.trans (same.trans hm'))
    obtain rfl | ⟨own, rfl⟩ := form
    · obtain rfl | ⟨own, rfl⟩ := form'
      · exact .inl rfl
      · exact .inr ⟨s, own, .inl rfl, .inr rfl⟩
    · exact .inr ⟨m, own, .inr rfl, form'.imp_right And.right⟩
  · rintro (rfl | ⟨n, own, form, form'⟩)
    · rfl
    · obtain ⟨alone, behind⟩ := keyName?_of_isIdentifier own
      obtain rfl | rfl := form <;> obtain rfl | rfl := form' <;> simp only [alone, behind]

/-! ### Arguments -/

/-- A character of an identifier may start one unless it is a digit. -/
lemma isIdentifierStart_of_part {c : Char} (part : isIdentifierPart c = true)
    (letter : c.isDigit = false) : isIdentifierStart c = true := by
  simpa [isIdentifierStart, isIdentifierPart, Char.isAlphanum, letter] using part

lemma isDigit_of_start {c : Char} (start : isIdentifierStart c = true) : c.isDigit = false := by
  cases digit : c.isDigit with
  | false => rfl
  | true =>
    have number : c.isAlphanum = true := by simp [Char.isAlphanum, digit]
    exact digit.symm.trans ((isIdentifierStart_iff number).1 start)

/-- Characters of an identifier are made one by what is written in front of them or instead. -/
lemma isIdentifier_started (parts : ∀ c ∈ n.toList, isIdentifierPart c = true) :
    IsIdentifier (match n.toList with
      | [] => "param"
      | c :: _ => if c.isDigit then "_" ++ n else n) := by
  cases chars : n.toList with
  | nil =>
    dsimp only
    exact ⟨'p', ['a', 'r', 'a', 'm'], by decide, by decide, List.all_eq_true.1 rfl⟩
  | cons c cs =>
    rw [chars] at parts
    dsimp only
    split
    · exact ⟨'_', c :: cs, by rw [String.toList_append, chars]; rfl, by decide, parts⟩
    · next letter =>
      obtain ⟨part, others⟩ := List.forall_mem_cons.1 parts
      exact ⟨c, cs, chars, isIdentifierStart_of_part part (by simpa using letter), others⟩

/-- An identifier is no reserved word, or none with what is written behind it. -/
lemma unreserved (h : IsIdentifier n) :
    IsIdentifier (if reservedWords.contains n then n ++ "_" else n) ∧
      (if reservedWords.contains n then n ++ "_" else n) ∉ reservedWords := by
  split
  · exact ⟨h.append (List.all_eq_true.1 rfl), (notMem_of_last n).1⟩
  · next other => exact ⟨h, by simpa using other⟩

/-- An identifier with a line feed behind it is left as it is. -/
lemma argumentName_of_lineFeed (h : HasLineFeed s) : argumentName s = s := by
  have passes : isIdentifier s = true := isIdentifier_iff_or.2 (.inr h)
  have other : s ∉ reservedWords := by
    intro word
    have plain : ∀ w ∈ reservedWords, '\n' ∉ w.toList := by decide
    obtain ⟨n, -, rfl⟩ := h
    exact plain _ word (by simp)
  obtain ⟨n, ⟨c, cs, chars, start, -⟩, rfl⟩ := h
  simp only [argumentName, passes, if_true, String.toList_append, chars, List.cons_append,
    isDigit_of_start start, Bool.false_eq_true, if_false, List.contains_iff_mem, other]

/-- The name of an argument is an identifier and no reserved word, unless it is asked for by an
identifier with a line feed behind it. -/
lemma argumentName_usable_iff : IsIdentifier (argumentName s) ∧ argumentName s ∉ reservedWords ↔
    ¬ HasLineFeed s := by
  by_cases feed : HasLineFeed s
  · refine iff_of_false (fun h => feed.not_isIdentifier ?_) (not_not_intro feed)
    rw [← argumentName_of_lineFeed feed]
    exact h.1
  · refine iff_of_true ?_ feed
    unfold argumentName
    refine unreserved (isIdentifier_started ?_)
    split
    · next passes => exact ((isIdentifier_iff_or.1 passes).resolve_right feed).parts
    · exact fun c hc => isIdentifierPart_of_isAlphanum (isAlphanum_of_mem_camelCase hc)

/-- How keys and arguments are written. The key of a name is well formed if and only if the name is
no identifier with a line feed behind it and no two of its halves are a pair, and the name of an
argument is an identifier and no reserved word if and only if it is not asked for by such an
identifier. That one is written as it is, line feed and all. So the keys of two names without pairs
are read the same if and only if the names are, but for a line feed behind an identifier. -/
theorem keys_and_arguments (s t : String) (hs : Kept s.toList) (ht : Kept t.toList) :
    (IsKeyOf (propertyKey s) s ↔ ¬ HasLineFeed s ∧ IsUnpaired (numbers s.toList)) ∧
    (IsIdentifier (argumentName s) ∧ argumentName s ∉ reservedWords ↔ ¬ HasLineFeed s) ∧
    (HasLineFeed s → propertyKey s = s ∧ argumentName s = s) ∧
    (IsUnpaired (numbers s.toList) → IsUnpaired (numbers t.toList) →
      (keyName? (propertyKey s) = keyName? (propertyKey t) ↔ s = t ∨ SameButLineFeed s t)) :=
  ⟨isKeyOf_propertyKey_iff hs, argumentName_usable_iff,
    fun feed => ⟨propertyKey_of_passing (.inr feed), argumentName_of_lineFeed feed⟩,
    keyName?_eq_iff hs ht⟩

/-- A name is read as the same key with a line feed behind it. -/
theorem keys_and_arguments_feed : Kept "foo\n".toList ∧ Kept "foo".toList ∧
    ¬ IsKeyOf (propertyKey "foo\n") "foo\n" ∧
    ¬ (IsIdentifier (argumentName "foo\n") ∧ argumentName "foo\n" ∉ reservedWords) ∧
    keyName? (propertyKey "foo\n") = keyName? (propertyKey "foo") := by
  have hs : Kept "foo\n".toList := kept_of_notMem (by decide)
  have ht : Kept "foo".toList := kept_of_notMem (by decide)
  have own : IsIdentifier "foo" := ⟨'f', ['o', 'o'], by decide, by decide, List.all_eq_true.1 rfl⟩
  have feed : HasLineFeed "foo\n" := ⟨"foo", own, by decide⟩
  obtain ⟨key, argument, -, same⟩ := keys_and_arguments "foo\n" "foo" hs ht
  refine ⟨hs, ht, fun h => (key.1 h).1 feed, fun h => argument.1 h feed, ?_⟩
  refine (same ?_ ?_).2 (.inr ⟨"foo", own, .inr (by decide), .inl rfl⟩)
  · exact isUnpaired_of_single (by decide)
  · exact isUnpaired_of_single (by decide)

end ClientGen.Naming
