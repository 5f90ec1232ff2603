import ClientGen.Output.Layout
import ClientGen.Proofs.Path.Segments
import Mathlib.Tactic.Common

/-!
# Ways between directories

The way from a directory to a path leads there, and put behind the directory it has the normal form of
the path. A file imports another one by such a way, which has to start with a dot and a slash or with
two dots, for any other text names a package. It does, unless the way goes down at once through a name
that has a dot in front itself.
-/

namespace ClientGen.Path

variable {rooted : Bool} {done ss ts A B : List String} {here p q s start target : String}

/-! ### Ways between segments -/

/-- A way goes back to where both paths part, and from there on. -/
lemma exists_between : ∀ A B : List String, ∃ front back forth, A = front ++ back ∧
    B = front ++ forth ∧ between A B = List.replicate back.length ".." ++ forth ∧
      (back = [] ∨ forth = [] ∨ back.head? ≠ forth.head?)
  | [], B => ⟨[], [], B, by simp [between]⟩
  | a :: A, [] => ⟨[], a :: A, [], by simp [between]⟩
  | a :: A, b :: B => by
    by_cases same : a = b
    · subst same
      obtain ⟨front, back, forth, rfl, rfl, way, part⟩ := exists_between A B
      exact ⟨a :: front, back, forth, rfl, rfl, by simpa [between] using way, part⟩
    · exact ⟨[], a :: A, b :: B, by simp [between, same]⟩

/-- What both paths have in front is left out. -/
lemma between_append (front A B : List String) :
    between (front ++ A) (front ++ B) = between A B := by
  induction front with
  | nil => rfl
  | cons f front ih => simpa [between] using ih

/-- Two dots for each of the last names lead back to those before them. -/
lemma lead_back {front back : List String} :
    lead (front ++ back) (List.replicate back.length ".." ++ ts) = lead front ts := by
  induction back using List.reverseRecOn with
  | nil => simp
  | append_singleton back b ih =>
    rw [List.length_append, List.length_singleton, List.replicate_succ, List.cons_append, lead,
      if_pos (beq_self_eq_true _), ← List.append_assoc, List.dropLast_concat, ih]

/-- A way leads from the one place to the other. -/
lemma lead_between (h : ".." ∉ B) : lead A (between A B) = B := by
  obtain ⟨front, back, forth, rfl, rfl, way, -⟩ := exists_between A B
  simp only [List.mem_append, not_or] at h
  rw [way, lead_back, lead_of_notMem h.2]

/-! ### Collapsing -/

/-- Names are kept as they are. -/
lemma collapse_of_notMem (h : ".." ∉ ss) :
    collapse rooted done (ss ++ ts) = collapse rooted (ss.reverse ++ done) ts := by
  induction ss generalizing done with
  | nil => rfl
  | cons s ss ih =>
    simp only [List.mem_cons, not_or] at h
    rw [List.cons_append, collapse.eq_def]
    simp [Ne.symm h.1, ih h.2]

lemma collapse_names (h : ".." ∉ ss) : collapse rooted done ss = done.reverse ++ ss := by
  have whole := @collapse_of_notMem rooted done ss [] h
  rw [List.append_nil] at whole
  rw [whole, collapse, List.reverse_append, List.reverse_reverse]

/-- As many double dots as there are names take all of them back. -/
lemma collapse_back {back : List String} (h : ".." ∉ back) :
    collapse rooted (back ++ done) (List.replicate back.length ".." ++ ts) =
      collapse rooted done ts := by
  induction back with
  | nil => rfl
  | cons b back ih =>
    simp only [List.mem_cons, not_or] at h
    rw [List.length_cons, List.replicate_succ, List.cons_append, List.cons_append,
      collapse.eq_def]
    simp [Ne.symm h.1, ih h.2]

/-- Some names and the way from them to others collapse to the others. -/
lemma collapse_between (hA : ".." ∉ A) (hB : ".." ∉ B) :
    collapse rooted [] (A ++ between A B) = B := by
  obtain ⟨front, back, forth, rfl, rfl, way, -⟩ := exists_between A B
  simp only [List.mem_append, not_or] at hA hB
  rw [way, List.append_assoc, collapse_of_notMem hA.1, collapse_of_notMem hA.2,
    ← List.length_reverse, List.append_nil, collapse_back (by simpa using hA.2),
    collapse_names hB.2, List.reverse_reverse]

/-! ### Ways between paths -/

/-- The text of some segments. -/
def textOf (ss : List String) : String :=
  if ss.isEmpty then "." else "/".intercalate ss

lemma segments_textOf (h : ∀ s ∈ ss, IsSegment s) : segments (textOf ss) = ss := by
  unfold textOf
  split
  · next none => simp [List.isEmpty_iff.1 none]
  · exact segments_intercalate h

lemma isAbsolute_textOf (h : ∀ s ∈ ss, IsSegment s) : isAbsolute (textOf ss) = false := by
  unfold textOf
  split
  · rfl
  · exact isAbsolute_intercalate h

/-- The normal form of a path that does not start at the root. -/
lemma normalise_of_relative (h : isAbsolute p = false) :
    normalise p = textOf (collapse false [] (segments p)) := by
  have marks : rootMarks p = "" := by
    obtain ⟨-, marks⟩ | ⟨yes, -⟩ := rootMarks_cases p
    · exact marks
    · simp [h] at yes
  have none {ss : List String} (parts : ∀ s ∈ ss, IsSegment s) :
      ("/".intercalate ss == "") = ss.isEmpty := by
    rw [Bool.eq_iff_iff, beq_iff_eq, List.isEmpty_iff]
    constructor
    · intro empty
      rw [← segments_intercalate parts, empty, segments_empty]
    · rintro rfl
      rfl
  have parts : ∀ s ∈ collapse false [] (segments p), IsSegment s := fun s hs =>
    isSegment_of_mem ((mem_collapse hs).resolve_left (by simp))
  simp only [normalise, marks, String.empty_append, bne_self_eq_false, none parts, textOf]

/-- The segments of a way from the root are those of its goal. -/
lemma segments_normalise_join (h : isAbsolute here = true) (p : String) :
    segments (normalise (join here p)) = goal here p := by
  have absolute : isAbsolute (join here p) = true := by simp [isAbsolute_join, h]
  rw [segments_normalise absolute, goal, way]

/-- A way between two paths is one between their goals. -/
lemma relative_eq (h : isAbsolute here = true) :
    relative here target start = textOf (between (goal here start) (goal here target)) := by
  simp only [relative, segments_normalise_join h, textOf]

lemma isSegment_dots : IsSegment ".." := by
  constructor <;> decide

/-- A way is made of double dots and of segments that it goes down to. -/
lemma isSegment_of_mem_between (hB : ∀ s ∈ B, IsSegment s) :
    ∀ s ∈ between A B, IsSegment s := by
  obtain ⟨front, back, forth, -, rfl, way, -⟩ := exists_between A B
  rw [way]
  intro s hs
  rcases List.mem_append.1 hs with hs | hs
  · rw [List.eq_of_mem_replicate hs]
    exact isSegment_dots
  · exact hB s (List.mem_append_right front hs)

lemma isSegment_way (here start target : String) :
    ∀ s ∈ between (goal here start) (goal here target), IsSegment s :=
  isSegment_of_mem_between fun _ => isSegment_of_mem_goal

lemma dots_notMem_goal (here p : String) : ".." ∉ goal here p := by
  rw [goal]
  exact notMem_lead (by simp)

/-- A relative path behind a directory is followed from there. -/
lemma goal_join_of_relative (h : isAbsolute q = false) :
    goal here (join start q) = lead (goal here start) (segments q) := by
  rw [← goal_tidy]
  change goal here (below start q) = _
  rw [goal, goal, way_below_of_relative here h, lead_append]

/-! ### Inner paths -/

/-- A path in normal form that stays inside of the directory it is taken from. -/
structure IsInner (p : String) : Prop where
  relative : isAbsolute p = false
  normal : normalise p = p
  stays : ".." ∉ segments p

lemma IsInner.eq_textOf (h : IsInner p) : p = textOf (segments p) := by
  have text := normalise_of_relative h.relative
  rwa [h.normal, collapse_names h.stays] at text

lemma isInner_textOf (h : ∀ s ∈ ss, IsName s) : IsInner (textOf ss) := by
  have parts := segments_textOf fun s hs => (h s hs).toIsSegment
  have stays : ".." ∉ ss := fun mem => (h _ mem).down rfl
  have relative := isAbsolute_textOf fun s hs => (h s hs).toIsSegment
  refine ⟨relative, ?_, by rwa [parts]⟩
  rw [normalise_of_relative relative, parts, collapse_names stays]
  rfl

/-- An inner path leads down from the directory it is taken from. -/
lemma IsInner.goal_eq (h : IsInner p) :
    goal here p = lead [] (segments here) ++ segments p := by
  rw [goal, way, segments_join, if_neg (by simp [h.relative]), lead_append,
    lead_of_notMem h.stays]

/-- The way between two inner paths makes the one the other. -/
lemma IsInner.normalise_join (hs : IsInner start) (ht : IsInner target)
    (relative : isAbsolute q = false)
    (way : segments q = between (goal here start) (goal here target)) :
    normalise (join start q) = target := by
  have absolute : isAbsolute (join start q) = false := by
    rw [isAbsolute_join, relative, hs.relative]
    rfl
  rw [normalise_of_relative absolute, segments_join, if_neg (by simp [relative]), way, hs.goal_eq,
    ht.goal_eq, between_append, collapse_between hs.stays ht.stays, ← ht.eq_textOf]

end ClientGen.Path

namespace ClientGen.Output

open Path Text

variable {here start target : String} {b : String} {rest : List String}

/-! ### Specifiers -/

/-- A specifier names a file or a directory next to the importing file, and no package. -/
def IsRelativeSpecifier (s : String) : Prop :=
  s = "." ∨ s = ".." ∨ ['.', '/'] <+: s.toList ∨ ['.', '.', '/'] <+: s.toList

instance (s : String) : Decidable (IsRelativeSpecifier s) :=
  inferInstanceAs (Decidable (_ ∨ _))

/-- A path lies below a directory, and the first name on the way down has a dot in front. -/
def LiesHidden (here start target : String) : Prop :=
  ∃ name rest, goal here target = goal here start ++ name :: rest ∧ name.toList.head? = some '.'

/-- The text of some segments starts with the first of them. -/
lemma exists_textOf_cons (b : String) (rest : List String) :
    ∃ more, (textOf (b :: rest)).toList = b.toList ++ more := by
  cases rest with
  | nil => exact ⟨[], by simp [textOf]⟩
  | cons c rest => exact ⟨_, by simp [textOf, String.intercalate_cons_cons]; rfl⟩

/-- Two dots in front make a specifier of a neighbour. -/
lemma isRelativeSpecifier_dots : IsRelativeSpecifier (textOf (".." :: rest)) := by
  cases rest with
  | nil => exact .inr (.inl rfl)
  | cons c rest =>
    refine .inr (.inr (.inr ?_))
    simp [textOf, String.intercalate_cons_cons]

/-- A name with a dot in front starts no specifier of a neighbour. -/
lemma not_isRelativeSpecifier (hb : IsName b) (hidden : b.toList.head? = some '.') :
    ¬ IsRelativeSpecifier (textOf (b :: rest)) := by
  obtain ⟨more, text⟩ := exists_textOf_cons b rest
  obtain ⟨s, chars⟩ := List.head?_eq_some_iff.1 hidden
  have noSlash := hb.noSlash
  rw [chars] at text noSlash
  cases s with
  | nil => exact absurd (String.toList_inj.1 chars) hb.noDot
  | cons c s =>
    have noDots : c = '.' → s ≠ [] := by
      rintro rfl rfl
      exact hb.down (String.toList_inj.1 chars)
    rintro (h | h | h | h)
    · simp [h] at text
    · rw [h] at text
      obtain ⟨rfl, none, -⟩ : '.' = c ∧ s = [] ∧ more = [] := by simpa using text
      exact noDots rfl none
    · rw [text] at h
      obtain rfl : '/' = c := by simpa using h
      simp at noSlash
    · rw [text] at h
      cases s with
      | nil =>
        obtain ⟨dot, -⟩ : '.' = c ∧ ['/'] <+: more := by simpa using h
        exact noDots dot.symm rfl
      | cons d s =>
        obtain ⟨-, rfl⟩ : '.' = c ∧ '/' = d := by simpa using h
        simp at noSlash

/-- What lies hidden is what the way goes down to at once through such a name. -/
lemma liesHidden_iff : LiesHidden here start target ↔
    ∃ b ∈ (between (goal here start) (goal here target)).head?, b ≠ ".." ∧
      b.toList.head? = some '.' := by
  obtain ⟨front, back, forth, before, behind, way, part⟩ :=
    exists_between (goal here start) (goal here target)
  rw [way]
  constructor
  · rintro ⟨b, rest, below, hidden⟩
    have down : forth = back ++ b :: rest := by
      rw [before, behind, List.append_assoc] at below
      exact List.append_cancel_left below
    have straight : back = [] := by
      cases back with
      | nil => rfl
      | cons c back => simp [down] at part
    rw [straight, List.nil_append] at down
    have name : b ≠ ".." := by
      rintro rfl
      exact dots_notMem_goal here target (by simp [below])
    exact ⟨b, by simp [straight, down], name, hidden⟩
  · rintro ⟨b, hb, name, hidden⟩
    cases back with
    | nil =>
      obtain ⟨rest, down⟩ := List.head?_eq_some_iff.1 hb
      rw [List.append_nil] at before
      exact ⟨b, rest, by rw [behind, before]; simpa using down, hidden⟩
    | cons c back =>
      rw [List.length_cons, List.replicate_succ, List.cons_append, List.head?_cons] at hb
      exact absurd (Option.mem_some.1 hb).symm name

/-- The text that an import path is. -/
lemma importPath_eq (h : isAbsolute here = true) (start target : String) :
    ∃ mark, (mark = "" ∨ mark = "./") ∧ importPath here start target = mark ++
      textOf (between (goal here start) (goal here (withoutExtension target))) := by
  rw [importPath, relative_eq h]
  split
  · exact ⟨"", .inl rfl, (String.empty_append ..).symm⟩
  · exact ⟨"./", .inr rfl, rfl⟩

/-- A file imports another one by a specifier of a neighbour, unless that one lies hidden below. -/
lemma isRelativeSpecifier_importPath (h : isAbsolute here = true) :
    IsRelativeSpecifier (importPath here start target) ↔
      ¬ LiesHidden here start (withoutExtension target) := by
  rw [liesHidden_iff, importPath, relative_eq h]
  have parts := isSegment_way here start (withoutExtension target)
  cases steps : between (goal here start) (goal here (withoutExtension target)) with
  | nil => exact iff_of_true (by decide) (by simp)
  | cons b rest =>
    rw [steps] at parts
    have hb := parts b List.mem_cons_self
    obtain ⟨more, text⟩ := exists_textOf_cons b rest
    have some : b.toList ≠ [] := fun none => hb.some (String.toList_eq_nil_iff.1 none)
    have first : (textOf (b :: rest)).toList.head? = b.toList.head? := by
      rw [text, List.head?_append_of_ne_nil _ some]
    by_cases dots : b = ".."
    · subst dots
      rw [if_pos (by rw [first]; rfl)]
      exact iff_of_true isRelativeSpecifier_dots (by simp)
    · by_cases hidden : b.toList.head? = Option.some '.'
      · rw [if_pos (by rw [first, hidden]; rfl)]
        exact iff_of_false (not_isRelativeSpecifier ⟨hb, dots⟩ hidden) (by simp [dots, hidden])
      · rw [if_neg (by rwa [first, beq_iff_eq])]
        refine iff_of_true (.inr (.inr (.inl ?_))) (by simp [hidden])
        simp

/-! ### Where an import leads -/

/-- An import path is made of the way to what is imported. -/
lemma segments_importPath (h : isAbsolute here = true) : segments (importPath here start target) =
    between (goal here start) (goal here (withoutExtension target)) := by
  obtain ⟨mark, rfl | rfl, text⟩ := importPath_eq h start target
  · rw [text, String.empty_append, segments_textOf (isSegment_way _ _ _)]
  · have dot := segments_append_slash "." (textOf
      (between (goal here start) (goal here (withoutExtension target))))
    rw [segments_textOf (isSegment_way _ _ _)] at dot
    rw [text]
    exact dot

lemma isAbsolute_importPath (h : isAbsolute here = true) :
    isAbsolute (importPath here start target) = false := by
  obtain ⟨mark, rfl | rfl, text⟩ := importPath_eq h start target
  · rw [text, String.empty_append, isAbsolute_textOf (isSegment_way _ _ _)]
  · simp [text, isAbsolute]

/-- An import leads from the importing directory to what is imported. -/
lemma goal_importPath (h : isAbsolute here = true) :
    goal here (join start (importPath here start target)) = goal here (withoutExtension target) := by
  rw [goal_join_of_relative (isAbsolute_importPath h), segments_importPath h,
    lead_between (dots_notMem_goal _ _)]

/-- What stands behind the last slash of a path can be longer. -/
lemma exists_front (p : String) : ∃ front last, '/' ∉ last.toList ∧
    ∀ more : String, segments (p ++ more) = front ++ segments (last ++ more) := by
  by_cases h : '/' ∈ p.toList
  · obtain ⟨behind, before, chars, noSlash⟩ :=
      List.eq_append_cons_of_mem (List.mem_reverse.2 h)
    obtain rfl : p = String.ofList before.reverse ++ "/" ++ String.ofList behind.reverse := by
      rw [← String.toList_inj, ← List.reverse_inj, chars]
      simp
    refine ⟨segments (String.ofList before.reverse), String.ofList behind.reverse,
      by simpa using noSlash, fun more => ?_⟩
    rw [String.append_assoc, segments_append_slash]
  · exact ⟨[], p, h, fun _ => rfl⟩

/-- The last of some segments can be longer. -/
lemma textOf_append_singleton (ss : List String) (s more : String) :
    textOf (ss ++ [s ++ more]) = textOf (ss ++ [s]) ++ more := by
  cases ss with
  | nil => simp [textOf]
  | cons t ss =>
    have some {u : String} : (t :: ss ++ [u]).isEmpty = false := rfl
    rw [textOf, textOf, some, some, if_neg (by simp), if_neg (by simp),
      String.intercalate_append_of_ne_nil (by simp) (by simp),
      String.intercalate_append_of_ne_nil (by simp) (by simp), String.intercalate_singleton,
      String.intercalate_singleton]
    simp only [String.append_assoc]

/-- A path ends like a source file, or it has nothing to drop. -/
lemma withoutExtension_cases (p : String) :
    p = withoutExtension p ++ ".ts" ∨ withoutExtension p = p := by
  unfold withoutExtension
  dsimp only
  split
  · next ends =>
    left
    obtain ⟨front, chars⟩ := List.isSuffixOf_iff_suffix.1 ends
    rw [← String.toList_inj, String.toList_append, String.toList_ofList, ← chars]
    simp
  · exact .inr rfl

/-- An inner path is one without its ending as well, unless its last name is nothing but dots in
front of the ending. -/
lemma isInner_withoutExtension (h : IsInner target)
    (named : lastName target ∉ [".ts", "..ts", "...ts"]) : IsInner (withoutExtension target) := by
  obtain form | same := withoutExtension_cases target
  · obtain ⟨front, last, noSlash, parts⟩ := exists_front (withoutExtension target)
    have whole := parts ".ts"
    have short := parts ""
    rw [← form, (isName_append_ts noSlash).segments] at whole
    have name : IsName last := by
      have ending : lastName target = last ++ ".ts" := by
        rw [lastName, whole]
        simp
      rw [ending] at named
      refine ⟨⟨?_, ?_, noSlash⟩, ?_⟩ <;> rintro rfl <;> exact named (by decide)
    rw [String.append_empty, String.append_empty, name.segments] at short
    have text : withoutExtension target = textOf (front ++ [last]) := by
      have long := h.eq_textOf
      rw [whole, textOf_append_singleton, form] at long
      exact (String.append_left_inj _).1 long
    have stays := h.stays
    rw [whole, List.mem_append, not_or] at stays
    rw [text]
    refine isInner_textOf fun s hs => ?_
    obtain mem | mem := List.mem_append.1 hs
    · have part : s ∈ segments target := by simp [whole, mem]
      exact ⟨isSegment_of_mem part, fun dots => stays.1 (dots ▸ mem)⟩
    · rwa [List.mem_singleton.1 mem]
  · rwa [same]

/-- Every path with something left of it is imported, from wherever it is, by a way that leads
there: an inner path by one that makes the importing directory the path. The way is a specifier of a
neighbour unless it goes down at once through a name with a dot in front. -/
theorem relativeImport_resolves (h : isAbsolute here = true) (some : withoutExtension target ≠ "") :
    ∃ way, relativeImport here start target = .ok way ∧
      (IsRelativeSpecifier way ↔ ¬ LiesHidden here start (withoutExtension target)) ∧
      goal here (join start way) = goal here (withoutExtension target) ∧
      (IsInner start → IsInner target → lastName target ∉ [".ts", "..ts", "...ts"] →
        normalise (join start way) = withoutExtension target) := by
  refine ⟨importPath here start target, ?_, isRelativeSpecifier_importPath h, goal_importPath h, ?_⟩
  · rw [relativeImport, if_neg (by simpa using some)]
  · intro hs ht named
    exact hs.normalise_join (isInner_withoutExtension ht named) (isAbsolute_importPath h)
      (segments_importPath h)

/-- A directory with a dot in front is imported as a neighbour from next to it, and as a package
from right above it. -/
theorem relativeImport_hidden_directory :
    (∃ way, relativeImport "/project" "src/apis" "src/.shared/users.ts" = .ok way ∧
      IsRelativeSpecifier way ∧ normalise (join "src/apis" way) = "src/.shared/users") ∧
    ∃ way, relativeImport "/project" "src" "src/.shared/users.ts" = .ok way ∧
      ¬ IsRelativeSpecifier way ∧ normalise (join "src" way) = "src/.shared/users" := by
  have target : IsInner "src/.shared/users.ts" := by constructor <;> decide +kernel
  have named : lastName "src/.shared/users.ts" ∉ [".ts", "..ts", "...ts"] := by decide +kernel
  have stripped : withoutExtension "src/.shared/users.ts" = "src/.shared/users" := by
    decide +kernel
  have some : withoutExtension "src/.shared/users.ts" ≠ "" := by decide +kernel
  constructor
  · obtain ⟨way, result, relative, -, inner⟩ :=
      @relativeImport_resolves "/project" "src/apis" _ (by decide) some
    refine ⟨way, result, relative.2 ?_, ?_⟩
    · rw [liesHidden_iff, goal, goal]
      decide +kernel
    · rw [inner (by constructor <;> decide +kernel) target named, stripped]
  · obtain ⟨way, result, relative, -, inner⟩ :=
      @relativeImport_resolves "/project" "src" _ (by decide) some
    refine ⟨way, result, fun next => relative.1 next ?_, ?_⟩
    · rw [liesHidden_iff, goal, goal]
      exact ⟨".shared", by decide +kernel⟩
    · rw [inner (by constructor <;> decide +kernel) target named, stripped]

end ClientGen.Output
