import ClientGen.Emission.FunctionName
import ClientGen.Proofs.Naming.Words

/-!
# Names that are identifiers

Which of the names that are made here the generated language takes for an identifier, and which of
them are words that it keeps for itself. A word in camel case is made an identifier by hand, one in
pascal case is one unless it starts with a digit.
-/

namespace ClientGen.Naming

open Text

variable {p : Char → Bool} {c : Char} {s w x : List Char} {n : String}

/-- A text that is an identifier to its end, which `isIdentifier` leaves open. -/
def IsIdentifier (n : String) : Prop :=
  ∃ c cs, n.toList = c :: cs ∧ isIdentifierStart c = true ∧ ∀ d ∈ cs, isIdentifierPart d = true

/-! ### Characters -/

lemma isIdentifierPart_of_isAlphanum (h : c.isAlphanum = true) : isIdentifierPart c = true := by
  simp [isIdentifierPart, h]

/-- A letter or a digit may start an identifier unless it is a digit. -/
lemma isIdentifierStart_iff (h : c.isAlphanum = true) :
    isIdentifierStart c = true ↔ c.isDigit = false := by
  have number : c.isDigit = true → c.isAlpha = false := by
    simp only [Char.isDigit_iff_toNat, Bool.eq_false_iff, ne_eq, isAlpha_iff, Char.reduceToNat]
    omega
  have other : c.isDigit = true → c ≠ '_' ∧ c ≠ '$' := by
    intro digit
    constructor <;> rintro rfl <;> exact absurd digit (by decide)
  cases digit : c.isDigit with
  | true => simp [isIdentifierStart, number digit, other digit]
  | false =>
    have letter : c.isAlpha = true := by simpa [Char.isAlphanum, digit] using h
    simp [isIdentifierStart, letter]

/-- Letters and digits are an identifier exactly if the first of them is a letter. -/
lemma isIdentifier_iff (all : ∀ c ∈ n.toList, c.isAlphanum = true) :
    IsIdentifier n ↔ ∃ c ∈ n.toList.head?, c.isDigit = false := by
  unfold IsIdentifier
  cases chars : n.toList with
  | nil => simp
  | cons c cs =>
    rw [chars] at all
    obtain ⟨first, others⟩ := List.forall_mem_cons.1 all
    constructor
    · rintro ⟨d, ds, same, start, -⟩
      obtain ⟨rfl, -⟩ := List.cons.inj same
      exact ⟨c, rfl, (isIdentifierStart_iff first).1 start⟩
    · rintro ⟨d, hd, letter⟩
      obtain rfl := Option.some.inj hd
      exact ⟨c, cs, rfl, (isIdentifierStart_iff first).2 letter,
        fun d hd => isIdentifierPart_of_isAlphanum (others d hd)⟩

/-- An identifier goes on with letters and digits. -/
lemma IsIdentifier.append {m : String} (h : IsIdentifier n)
    (all : ∀ c ∈ m.toList, isIdentifierPart c = true) : IsIdentifier (n ++ m) := by
  obtain ⟨c, cs, chars, start, others⟩ := h
  refine ⟨c, cs ++ m.toList, by rw [String.toList_append, chars, List.cons_append], start, ?_⟩
  exact fun d hd => (List.mem_append.1 hd).elim (others d) (all d)

lemma isIdentifierTail_of_all : ∀ {cs : List Char}, (∀ c ∈ cs, isIdentifierPart c = true) →
    isIdentifierTail cs = true
  | [], _ => rfl
  | c :: cs, h => by
    obtain ⟨hc, hcs⟩ := List.forall_mem_cons.1 h
    rw [isIdentifierTail, hc, isIdentifierTail_of_all hcs]
    rfl

/-- What is an identifier to its end passes for one. -/
lemma IsIdentifier.isIdentifier (h : IsIdentifier n) : isIdentifier n = true := by
  obtain ⟨c, cs, chars, start, others⟩ := h
  unfold Naming.isIdentifier
  rw [chars]
  dsimp only
  rw [start, isIdentifierTail_of_all others]
  rfl

lemma isDigit_of_mem_toString {k : Nat} (h : c ∈ (toString k).toList) : c.isDigit = true := by
  rw [Nat.toString_eq_ofList_toDigits, String.toList_ofList] at h
  exact Nat.isDigit_of_mem_toDigits (by decide) (by decide) h

/-- A number behind an identifier makes another identifier. -/
lemma IsIdentifier.numbered (h : IsIdentifier n) (k : Nat) : IsIdentifier (numbered (n, k)) := by
  unfold Naming.numbered
  split
  · exact h
  · refine h.append fun c hc => isIdentifierPart_of_isAlphanum ?_
    simp [Char.isAlphanum, isDigit_of_mem_toString hc]

/-- No reserved word bears a number. -/
lemma numbered_mem_reservedWords {o : String × Nat} :
    numbered o ∈ reservedWords ↔ o.2 = 1 ∧ o.1 ∈ reservedWords := by
  have plain : ∀ r ∈ reservedWords, ∀ c ∈ r.toList, c.isDigit = false := by
    have all : ∀ r ∈ reservedWords, (r.toList.all fun c => !c.isDigit) = true := by decide
    exact fun r hr => by simpa using List.all_eq_true.1 (all r hr)
  unfold numbered
  split
  · next one => simp [one]
  · next more =>
    refine ⟨fun reserved => ?_, fun h => absurd h.1 more⟩
    obtain ⟨d, ds, digits⟩ := List.exists_cons_of_ne_nil
      (mt String.toList_eq_nil_iff.1 (toString_ne_empty o.2))
    have mem : d ∈ (toString o.2).toList := digits ▸ List.mem_cons_self
    have digit := plain _ reserved d
      (String.toList_append ▸ List.mem_append_right o.1.toList mem)
    rw [isDigit_of_mem_toString mem] at digit
    cases digit

/-! ### Words -/

/-- Characters of the class at the start go on into the first run. -/
lemma exists_runs_prefix : ∀ {w : List Char}, w ≠ [] → (∀ c ∈ w, p c = true) → ∀ x,
    ∃ v ws, runs p (w ++ x) = (w ++ v) :: ws
  | [c], _, all, x => exists_runs_cons (all c (by simp))
  | c :: d :: w, _, all, x => by
    obtain ⟨v, ws, h⟩ := exists_runs_prefix (List.cons_ne_nil d w)
      (fun e he => all e (by simp [he])) x
    exact ⟨v, ws, runs_cons_cons (all c (by simp)) (all d (by simp)) h⟩

/-- The runs have all characters of the class in them. -/
lemma flatten_runs : ∀ s, (runs p s).flatten = s.filter p
  | [] => rfl
  | c :: s => by
    by_cases hc : p c = true
    · rw [List.filter_cons_of_pos hc, ← flatten_runs s]
      cases s with
      | nil => rw [runs_cons_of_alone hc (by simp)]; rfl
      | cons d s =>
        by_cases hd : p d = true
        · obtain ⟨w, ws, h⟩ := exists_runs_cons (s := s) hd
          rw [runs_cons_cons hc hd h, h]
          rfl
        · rw [runs_cons_of_alone hc (by simpa using hd)]
          rfl
    · rw [List.filter_cons_of_neg hc, runs_cons_of_not (by simpa using hc), flatten_runs s]

lemma length_capitalised : (capitalised s).length = s.length := by
  cases s <;> rfl

/-- A name of a type has a character for each letter and digit of the text that it is made of. -/
lemma length_pascalChars (s : List Char) :
    (pascalChars s).length = (s.filter Char.isAlphanum).length := by
  unfold pascalChars
  rw [← flatten_runs, List.length_flatten, List.length_flatten, List.map_map]
  exact congrArg List.sum (List.map_congr_left fun _ _ => length_capitalised)

lemma pascalChars_eq_nil_iff : pascalChars s = [] ↔ ∀ c ∈ s, c.isAlphanum = false := by
  rw [← List.length_eq_zero_iff, length_pascalChars, List.length_eq_zero_iff,
    List.filter_eq_nil_iff]
  simp

/-- A name of a type starts with the capital of the first letter or digit. -/
lemma head?_pascalChars : (pascalChars s).head? = (s.find? Char.isAlphanum).map Char.toUpper := by
  induction s with
  | nil => rfl
  | cons c s ih =>
    unfold pascalChars at ih ⊢
    by_cases hc : c.isAlphanum = true
    · obtain ⟨w, ws, h⟩ := exists_runs_cons (s := s) hc
      rw [h, List.find?_cons_of_pos hc]
      rfl
    · rw [runs_cons_of_not (by simpa using hc), List.find?_cons_of_neg hc, ih]

lemma isDigit_iff : c.isDigit = true ↔ 48 ≤ c.toNat ∧ c.toNat ≤ 57 := by
  simp [Char.isDigit, UInt32.le_iff_toNat_le]

@[simp] lemma isDigit_toUpper : c.toUpper.isDigit = c.isDigit := by
  have := toNat_toUpper c
  rw [Bool.eq_iff_iff, isDigit_iff, isDigit_iff]
  omega

@[simp] lemma isDigit_toLower : c.toLower.isDigit = c.isDigit := by
  have := toNat_toLower c
  rw [Bool.eq_iff_iff, isDigit_iff, isDigit_iff]
  omega

/-- The characters of a text in camel case. -/
lemma toList_camelCase (t : String) : (camelCase t).toList =
    match pascalChars t.toList with
    | [] => []
    | c :: cs => c.toLower :: cs := by
  unfold camelCase
  cases pascalChars t.toList with
  | nil => rfl
  | cons c cs => exact String.toList_ofList

lemma camelCase_eq_empty_iff {t : String} :
    camelCase t = "" ↔ ∀ c ∈ t.toList, c.isAlphanum = false := by
  rw [← pascalChars_eq_nil_iff, ← String.toList_inj, toList_camelCase]
  cases pascalChars t.toList <;> simp

lemma isAlphanum_of_mem_camelCase {t : String} (h : c ∈ (camelCase t).toList) :
    c.isAlphanum = true := by
  have all {d : Char} (hd : d ∈ pascalChars t.toList) : d.isAlphanum = true := by
    have among : d ∈ (pascalCase t).toList := by rwa [pascalCase, String.toList_ofList]
    exact isAlphanum_of_mem_pascalCase among
  rw [toList_camelCase] at h
  cases form : pascalChars t.toList with
  | nil => simp [form] at h
  | cons d ds =>
    rw [form] at h all
    rcases List.mem_cons.1 h with rfl | h
    · exact isAlphanum_toLower (all (by simp))
    · exact all (by simp [h])

/-! ### First characters -/

/-- The name starts with a letter or a digit. -/
def StartsWord (n : String) : Prop :=
  ∃ c ∈ n.toList.head?, c.isAlphanum = true

lemma StartsWord.append (h : StartsWord n) (m : String) : StartsWord (n ++ m) := by
  obtain ⟨c, head, letter⟩ := h
  rw [Option.mem_def] at head
  exact ⟨c, by rw [String.toList_append, List.head?_append, head]; rfl, letter⟩

lemma startsWord_typeIdentifier (s : String) : StartsWord (typeIdentifier s) := by
  have head := head?_pascalChars (s := s.toList)
  unfold typeIdentifier
  cases form : pascalChars s.toList with
  | nil => exact ⟨'U', rfl, by decide⟩
  | cons c cs =>
    dsimp only
    split
    · exact StartsWord.append ⟨'V', rfl, by decide⟩ _
    · have among : c ∈ (pascalCase s).toList := by simp [pascalCase, form]
      exact ⟨c, by simp, isAlphanum_of_mem_pascalCase among⟩

/-! ### Names of functions -/

/-- The first of the letters and digits of a name is a digit. -/
def StartsWithDigit (n : String) : Prop :=
  ∃ c ∈ n.toList.find? Char.isAlphanum, c.isDigit = true

/-- The name of a type that is made of an identifier is an identifier with a word behind it exactly if
no digit comes first in it. -/
lemma isIdentifier_pascalCase_append {m : String} (word : ∃ c ∈ n.toList, c.isAlphanum = true)
    (all : ∀ c ∈ m.toList, c.isAlphanum = true) :
    IsIdentifier (pascalCase n ++ m) ↔ ¬ StartsWithDigit n := by
  obtain ⟨first, found⟩ := Option.isSome_iff_exists.1 (List.find?_isSome.2 word)
  have letter : first.isAlphanum = true := List.find?_some found
  have head : (pascalCase n ++ m).toList.head? = some first.toUpper := by
    have start : (pascalChars n.toList).head? = some first.toUpper := by
      rw [head?_pascalChars, found, Option.map_some]
    rw [String.toList_append, pascalCase, String.toList_ofList, List.head?_append, start,
      Option.some_or]
  have chars : ∀ c ∈ (pascalCase n ++ m).toList, c.isAlphanum = true := by
    intro c hc
    rw [String.toList_append, List.mem_append] at hc
    exact hc.elim isAlphanum_of_mem_pascalCase (all c)
  unfold StartsWithDigit
  rw [isIdentifier_iff chars, head, found]
  simp

end ClientGen.Naming
