import ClientGen.Proofs.Naming.Words
import ClientGen.Text.Chars

/-!
# Texts inside of comments

A text that is put inside a comment has the words of the text before, only that the two characters
which would end the comment are kept apart. It stays on one line, and the comment ends behind it.
-/

namespace ClientGen.Text

open Naming

variable {p : Char → Bool} {c : Char} {s t w front : List Char} {ws : List (List Char)}

/-- The characters that words are made of. -/
abbrev isWordPart (c : Char) : Bool :=
  !isBlank c

/-- A text that can stand inside a comment for another one. -/
structure IsCommentOf (s t : String) : Prop where
  noEnd : ¬ ['*', '/'] <:+: t.toList
  noLineEnd : ∀ c ∈ t.toList, isLineEnd c = false
  words : runs isWordPart t.toList = (runs isWordPart s.toList).map guardEnd

/-! ### Keeping the end apart -/

lemma guardEnd_cons (h : c = '*' → s.head? ≠ some '/') : guardEnd (c :: s) = c :: guardEnd s := by
  rw [guardEnd]
  rintro rest rfl rfl
  exact h rfl rfl

@[simp] lemma head?_guardEnd (s : List Char) : (guardEnd s).head? = s.head? := by
  fun_cases guardEnd s <;> simp [*]

/-- No end of a comment is left. -/
lemma not_infix_guardEnd (s : List Char) : ¬ ['*', '/'] <:+: guardEnd s := by
  fun_induction guardEnd s with
  | case1 => simp
  | case2 rest ih => simp [List.infix_cons_iff, ih]
  | case3 c rest other ih =>
    rw [List.infix_cons_iff, not_or]
    refine ⟨fun front => ?_, ih⟩
    obtain ⟨rfl, behind⟩ := List.cons_prefix_cons.1 front
    cases rest with
    | nil => simp [guardEnd] at behind
    | cons d rest =>
      obtain ⟨more, same⟩ := behind
      have first := head?_guardEnd (d :: rest)
      rw [← same] at first
      obtain rfl : '/' = d := by simpa using first
      exact other rest rfl rfl

/-! ### Words -/

/-- Characters of the class in front of others are a run of their own. -/
lemma runs_append_alone (some : front ≠ []) (all : ∀ d ∈ front, p d = true)
    (alone : ∀ d ∈ s.head?, p d = false) : runs p (front ++ s) = front :: runs p s := by
  induction front with
  | nil => exact absurd rfl some
  | cons c front ih =>
    obtain ⟨hc, all⟩ := List.forall_mem_cons.1 all
    cases front with
    | nil => exact runs_cons_of_alone hc alone
    | cons d front => exact runs_cons_cons hc (all d List.mem_cons_self) (ih (by simp) all)

/-- Characters of the class in front of others of the class go on with their run. -/
lemma runs_append_cons (all : ∀ d ∈ front, p d = true) (hc : p c = true)
    (form : runs p (c :: s) = w :: ws) : runs p (front ++ c :: s) = (front ++ w) :: ws := by
  induction front with
  | nil => exact form
  | cons d front ih =>
    obtain ⟨hd, all⟩ := List.forall_mem_cons.1 all
    cases front with
    | nil => exact runs_cons_cons hd hc form
    | cons e front => exact runs_cons_cons hd (all e List.mem_cons_self) (ih all)

/-- The words stay guarded when characters of a word are put in front that guard what follows them
as it is. -/
lemma runs_guardEnd_append (front front' : List Char) (some : front ≠ []) (some' : front' ≠ [])
    (all : ∀ d ∈ front, isWordPart d = true) (all' : ∀ d ∈ front', isWordPart d = true)
    (law : ∀ w, (∀ d ∈ w.head?, d ∈ s.head?) → guardEnd (front ++ w) = front' ++ guardEnd w)
    (ih : runs isWordPart (guardEnd s) = (runs isWordPart s).map guardEnd) :
    runs isWordPart (front' ++ guardEnd s) = (runs isWordPart (front ++ s)).map guardEnd := by
  by_cases alone : ∀ d ∈ s.head?, isWordPart d = false
  · have single := law [] (by simp)
    simp only [List.append_nil, guardEnd] at single
    have alone' : ∀ d ∈ (guardEnd s).head?, isWordPart d = false := by simpa using alone
    rw [runs_append_alone some' all' alone', runs_append_alone some all alone, List.map_cons, single,
      ih]
  · push Not at alone
    obtain ⟨c, first, hc⟩ := alone
    obtain ⟨t, rfl⟩ := List.head?_eq_some_iff.1 first
    obtain ⟨u, guarded⟩ := List.head?_eq_some_iff.1 ((head?_guardEnd (c :: t)).trans first)
    have hc : isWordPart c = true := by simpa using hc
    obtain ⟨w, ws, form⟩ := exists_runs_cons (s := t) hc
    rw [form, List.map_cons, guarded] at ih
    rw [guarded, runs_append_cons all' hc ih, runs_append_cons all hc form, List.map_cons,
      law _ (by simp)]

/-- The words of a guarded text are those of the text, each of them guarded. -/
lemma runs_guardEnd (s : List Char) :
    runs isWordPart (guardEnd s) = (runs isWordPart s).map guardEnd := by
  fun_induction guardEnd s with
  | case1 => rfl
  | case2 rest ih =>
    exact runs_guardEnd_append ['*', '/'] ['*', '\\', '/'] (by simp) (by simp)
      (List.all_eq_true.1 (by decide)) (List.all_eq_true.1 (by decide)) (fun w _ => rfl) ih
  | case3 c rest other ih =>
    by_cases hc : isWordPart c = true
    · refine runs_guardEnd_append [c] [c] (by simp) (by simp) (by simpa using hc)
        (by simpa using hc) (fun w begins => guardEnd_cons ?_) ih
      rintro rfl slash
      obtain ⟨more, rfl⟩ := List.head?_eq_some_iff.1 (begins '/' slash)
      exact other more rfl rfl
    · rw [runs_cons_of_not (by simpa using hc), runs_cons_of_not (by simpa using hc), ih]

/-- Words with a space between them are read back. -/
lemma runs_intercalate (h : ∀ w ∈ ws, w ≠ [] ∧ ∀ c ∈ w, isWordPart c = true) :
    runs isWordPart ([' '].intercalate ws) = ws := by
  induction ws with
  | nil => rfl
  | cons w ws ih =>
    obtain ⟨⟨some, all⟩, others⟩ := List.forall_mem_cons.1 h
    cases ws with
    | nil => simpa using runs_of_all some all
    | cons v ws =>
      rw [List.intercalate_cons_cons, List.append_assoc,
        runs_append_alone some all (by simp [isBlank]), List.singleton_append,
        runs_cons_of_not (by decide), ih others]

/-! ### Comments -/

/-- What is in two texts with a space between them, and has no space itself, is in one of them. -/
lemma infix_of_infix_space {part : List Char} (h : part <:+: s ++ ' ' :: t) (solid : ' ' ∉ part) :
    part <:+: s ∨ part <:+: t := by
  have none {u : List Char} (front : u <+: ' ' :: t) (solid : ' ' ∉ u) : u = [] := by
    obtain rfl | ⟨v, rfl, -⟩ := List.prefix_cons_iff.1 front
    · rfl
    · simp at solid
  obtain left | right | ⟨u, v, rfl, left, front⟩ := List.infix_append_iff.1 h
  · exact .inl left
  · obtain front | right := List.infix_cons_iff.1 right
    · rw [none front solid]
      exact .inl (List.nil_infix)
    · exact .inr right
  · rw [List.mem_append, not_or] at solid
    rw [none front solid.2, List.append_nil]
    exact .inl left.isInfix

/-- No end of a comment comes about between words. -/
lemma not_infix_intercalate (h : ∀ w ∈ ws, ¬ ['*', '/'] <:+: w) :
    ¬ ['*', '/'] <:+: [' '].intercalate ws := by
  induction ws with
  | nil => simp
  | cons w ws ih =>
    obtain ⟨hw, others⟩ := List.forall_mem_cons.1 h
    cases ws with
    | nil => simpa using hw
    | cons v ws =>
      rw [List.intercalate_cons_cons, List.append_assoc]
      intro inside
      obtain inside | inside := infix_of_infix_space inside (by decide)
      · exact hw inside
      · exact ih others inside

lemma mem_intercalate (h : c ∈ [' '].intercalate ws) : c = ' ' ∨ ∃ w ∈ ws, c ∈ w := by
  induction ws with
  | nil => simp at h
  | cons w ws ih =>
    cases ws with
    | nil => exact .inr ⟨w, List.mem_cons_self, by simpa using h⟩
    | cons v ws =>
      rw [List.intercalate_cons_cons, List.mem_append, List.mem_append, List.mem_singleton] at h
      obtain (front | space) | rest := h
      · exact .inr ⟨w, List.mem_cons_self, front⟩
      · exact .inl space
      · exact (ih rest).imp_right fun ⟨u, hu, hc⟩ => ⟨u, List.mem_cons_of_mem w hu, hc⟩

lemma isBlank_of_isLineEnd (h : isLineEnd c = true) : isBlank c = true := by
  simp only [isLineEnd, isBlank, Bool.or_eq_true, Bool.and_eq_true, decide_eq_true_eq,
    beq_iff_eq] at h ⊢
  omega

/-- A text in a comment is one for the text that it was made of. -/
lemma isCommentOf_commentText (s : String) : IsCommentOf s (commentText s) := by
  have words := fun w (hw : w ∈ runs isWordPart (guardEnd s.toList)) => of_mem_runs hw
  have text : (commentText s).toList =
      [' '].intercalate (runs isWordPart (guardEnd s.toList)) := String.toList_ofList
  refine ⟨?_, fun c hc => ?_, ?_⟩
  · rw [text]
    refine not_infix_intercalate fun w hw => ?_
    rw [runs_guardEnd] at hw
    obtain ⟨v, -, rfl⟩ := List.mem_map.1 hw
    exact not_infix_guardEnd v
  · rw [text] at hc
    obtain rfl | ⟨w, hw, hc⟩ := mem_intercalate hc
    · decide
    · have part : isBlank c = false := by simpa using (words w hw).2 c hc
      exact Bool.eq_false_iff.2 fun ends => Bool.eq_false_iff.1 part (isBlank_of_isLineEnd ends)
  · rw [text, runs_intercalate words, runs_guardEnd]

end ClientGen.Text
