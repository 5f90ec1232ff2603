import ClientGen.Path
import ClientGen.Proofs.Text.Kept
import Mathlib.Data.List.Induction

/-!
# Segments of paths

What the segments of a path are when paths are joined, made tidy or brought into normal form. The
normal form of a path at the root has the segments of its `lead`, where two dots take back what is
before them.
-/

namespace ClientGen.Path

open Text

variable {a b p path s : String} {ss : List String}

/-- A segment of a path: neither nothing nor a dot, and without slashes. -/
structure IsSegment (s : String) : Prop where
  some : s ≠ ""
  noDot : s ≠ "."
  noSlash : '/' ∉ s.toList

/-! ### Pieces -/

lemma pieces_of_notMem {c : Char} : ∀ {s : List Char}, c ∉ s → pieces c s = [s]
  | [], _ => rfl
  | d :: s, h => by
    rw [List.mem_cons, not_or] at h
    rw [pieces, if_neg (by simpa using Ne.symm h.1), pieces_of_notMem h.2]

lemma exists_pieces_cons (c : Char) (s : List Char) : ∃ w ws, pieces c s = w :: ws := by
  cases s with
  | nil => exact ⟨_, _, rfl⟩
  | cons d s =>
    rw [pieces]
    split
    · exact ⟨_, _, rfl⟩
    · split <;> exact ⟨_, _, rfl⟩

lemma pieces_append (c : Char) (t : List Char) :
    ∀ s, pieces c (s ++ c :: t) = pieces c s ++ pieces c t
  | [] => by simp [pieces]
  | d :: s => by
    rw [List.cons_append, pieces, pieces]
    split
    · rw [pieces_append c t s, List.cons_append]
    · obtain ⟨w, ws, form⟩ := exists_pieces_cons c s
      rw [pieces_append c t s, form]
      rfl

lemma notMem_of_mem_pieces {c : Char} : ∀ {s w : List Char}, w ∈ pieces c s → c ∉ w
  | [], w, h => by
    rw [pieces, List.mem_singleton] at h
    simp [h]
  | d :: s, w, h => by
    rw [pieces] at h
    split at h
    · obtain rfl | h := List.mem_cons.1 h
      · simp
      · exact notMem_of_mem_pieces h
    · next other =>
      obtain ⟨v, vs, form⟩ := exists_pieces_cons c s
      rw [form] at h
      obtain rfl | h := List.mem_cons.1 h
      · have := notMem_of_mem_pieces (form ▸ List.mem_cons_self : v ∈ pieces c s)
        rw [List.mem_cons, not_or]
        exact ⟨fun same => other (by simp [same]), this⟩
      · exact notMem_of_mem_pieces (form ▸ List.mem_cons_of_mem v h)

/-! ### Segments -/

lemma isSegment_of_mem (h : s ∈ segments p) : IsSegment s := by
  rw [segments, List.mem_filter] at h
  obtain ⟨h, some⟩ := h
  obtain ⟨w, hw, rfl⟩ := List.mem_map.1 h
  simp only [Bool.and_eq_true, bne_iff_ne] at some
  exact ⟨some.1, some.2, by rw [String.toList_ofList]; exact notMem_of_mem_pieces hw⟩

/-- The segments before and behind a slash. -/
lemma segments_append_slash (a b : String) :
    segments (a ++ "/" ++ b) = segments a ++ segments b := by
  have chars : (a ++ "/" ++ b).toList = a.toList ++ '/' :: b.toList := by
    simp
  rw [segments, chars, pieces_append, List.map_append, List.filter_append]
  rfl

@[simp] lemma segments_empty : segments "" = [] := rfl

@[simp] lemma segments_dot : segments "." = [] := rfl

lemma segments_slash (b : String) : segments ("/" ++ b) = segments b := by
  simpa using segments_append_slash "" b

lemma IsSegment.segments (h : IsSegment s) : segments s = [s] := by
  rw [Path.segments, pieces_of_notMem h.noSlash]
  simp [h.some, h.noDot]

/-- Segments with slashes between them are read back. -/
lemma segments_intercalate (h : ∀ s ∈ ss, IsSegment s) : segments ("/".intercalate ss) = ss := by
  induction ss with
  | nil => rfl
  | cons s ss ih =>
    obtain ⟨hs, hss⟩ := List.forall_mem_cons.1 h
    cases ss with
    | nil => exact hs.segments
    | cons t ss =>
      have cons : "/".intercalate (s :: t :: ss) = s ++ "/" ++ "/".intercalate (t :: ss) := by
        simp [String.intercalate_cons_cons]
      rw [cons, segments_append_slash, hs.segments, ih hss]
      rfl

/-! ### Slashes in front -/

lemma rootMarks_cases (p : String) :
    isAbsolute p = false ∧ rootMarks p = "" ∨
      isAbsolute p = true ∧ (rootMarks p = "/" ∨ rootMarks p = "//") := by
  unfold isAbsolute rootMarks
  split
  · next h => exact .inr ⟨by simp [h], .inl rfl⟩
  · next h => exact .inr ⟨by simp [h], .inr rfl⟩
  · next h => exact .inr ⟨by simp [h], .inl rfl⟩
  · next none =>
    refine .inl ⟨?_, rfl⟩
    cases h : p.toList with
    | nil => rfl
    | cons c t =>
      have : c ≠ '/' := by
        rintro rfl
        exact none t h
      simpa using this

lemma segments_rootMarks_append (p s : String) : segments (rootMarks p ++ s) = segments s := by
  obtain ⟨-, marks⟩ | ⟨-, marks | marks⟩ := rootMarks_cases p <;> rw [marks]
  · simp
  · exact segments_slash s
  · have two : "//" ++ s = "/" ++ ("/" ++ s) := by
      rw [← String.append_assoc]
      rfl
    rw [two, segments_slash, segments_slash]

lemma isAbsolute_rootMarks_append (h : isAbsolute p = true) (s : String) :
    isAbsolute (rootMarks p ++ s) = true := by
  obtain ⟨no, -⟩ | ⟨-, marks | marks⟩ := rootMarks_cases p
  · simp [h] at no
  · simp [isAbsolute, marks]
  · simp [isAbsolute, marks]

/-- Segments with slashes between them do not start at the root. -/
lemma isAbsolute_intercalate (h : ∀ s ∈ ss, IsSegment s) :
    isAbsolute ("/".intercalate ss) = false := by
  cases ss with
  | nil => rfl
  | cons s ss =>
    obtain ⟨hs, -⟩ := List.forall_mem_cons.1 h
    have chars : ("/".intercalate (s :: ss)).toList.head? = s.toList.head? := by
      have some : s.toList ≠ [] := fun none => hs.some (String.toList_eq_nil_iff.1 none)
      cases ss with
      | nil => simp
      | cons t ss => simp [String.intercalate_cons_cons, List.head?_append_of_ne_nil _ some]
    rw [isAbsolute, chars, beq_eq_false_iff_ne]
    intro first
    exact hs.noSlash (List.mem_of_mem_head? first)

/-- A segment does not start at the root. -/
lemma IsSegment.isAbsolute (h : IsSegment s) : isAbsolute s = false := by
  have single : ∀ t ∈ [s], IsSegment t := by simpa using h
  simpa using isAbsolute_intercalate single

/-! ### Joining and tidying -/

/-- The segments of a path behind another. -/
lemma segments_join (a b : String) :
    segments (join a b) = if isAbsolute b then segments b else segments a ++ segments b := by
  unfold join
  split
  · rfl
  · split
    · next closed =>
      rw [Bool.or_eq_true] at closed
      obtain empty | ending := closed
      · obtain rfl : a = "" := by simpa using empty
        simp
      · obtain ⟨front, chars⟩ : ['/'] <:+ a.toList := by
          simpa [endsWith] using ending
        obtain rfl : a = String.ofList front ++ "/" := by
          rw [← String.toList_inj]
          simp [← chars]
        have whole := segments_append_slash (String.ofList front) ""
        rw [String.append_empty] at whole
        rw [segments_append_slash, whole]
        simp
    · exact segments_append_slash a b

lemma segments_tidy (p : String) : segments (tidy p) = segments p := by
  have body : segments (rootMarks p ++ "/".intercalate (segments p)) = segments p := by
    rw [segments_rootMarks_append, segments_intercalate fun s hs => isSegment_of_mem hs]
  unfold tidy
  dsimp only
  split
  · next none =>
    rw [← body, beq_iff_eq.1 none]
    rfl
  · exact body

lemma isAbsolute_tidy (p : String) : isAbsolute (tidy p) = isAbsolute p := by
  have rest := isAbsolute_intercalate fun s hs => isSegment_of_mem (p := p) hs
  unfold tidy
  dsimp only
  obtain ⟨no, marks⟩ | ⟨yes, marks⟩ := rootMarks_cases p
  · rw [marks, no, String.empty_append]
    split
    · rfl
    · exact rest
  · rw [if_neg, yes]
    · exact isAbsolute_rootMarks_append yes _
    · obtain marks | marks := marks <;> simp [marks]

lemma segments_below (a b : String) :
    segments (below a b) = if isAbsolute b then segments b else segments a ++ segments b := by
  rw [below, segments_tidy, segments_join]

lemma isAbsolute_join (a b : String) :
    isAbsolute (join a b) = (isAbsolute b || isAbsolute a) := by
  unfold join
  split
  · next h => simp [h]
  · next h =>
    have h : isAbsolute b = false := by simpa using h
    have front (t : String) (some : a ≠ "") : isAbsolute (a ++ t) = isAbsolute a := by
      have some : a.toList ≠ [] := fun none => some (String.toList_eq_nil_iff.1 none)
      rw [isAbsolute, isAbsolute, String.toList_append, List.head?_append_of_ne_nil _ some]
    by_cases empty : a = ""
    · subst empty
      rw [if_pos (by simp), String.empty_append]
      simp [isAbsolute]
    · rw [h, Bool.false_or]
      split
      · exact front b empty
      · rw [String.append_assoc]
        exact front _ empty

/-! ### Normal form -/

lemma mem_collapse {rooted : Bool} {done : List String} (h : s ∈ collapse rooted done ss) :
    s ∈ done ∨ s ∈ ss := by
  induction ss generalizing done with
  | nil => exact .inl (List.mem_reverse.1 h)
  | cons t ss ih =>
    rw [collapse.eq_def] at h
    dsimp only at h
    by_cases dots : t = ".."
    · rw [if_pos (by simp [dots])] at h
      cases done with
      | nil =>
        cases rooted with
        | true => exact (ih h).imp_right (List.mem_cons_of_mem t)
        | false =>
          obtain before | h := ih h
          · exact .inr (List.mem_cons.2 (.inl (dots ▸ List.mem_singleton.1 before)))
          · exact .inr (List.mem_cons_of_mem t h)
      | cons d ds =>
        dsimp only at h
        split at h
        · obtain before | h := ih h
          · obtain rfl | before := List.mem_cons.1 before
            · exact .inr (List.mem_cons.2 (.inl dots.symm))
            · exact .inl before
          · exact .inr (List.mem_cons_of_mem t h)
        · exact (ih h).imp (List.mem_cons_of_mem d) (List.mem_cons_of_mem t)
    · rw [if_neg (by simpa using dots)] at h
      obtain before | h := ih h
      · obtain rfl | before := List.mem_cons.1 before
        · exact .inr List.mem_cons_self
        · exact .inl before
      · exact .inr (List.mem_cons_of_mem t h)

/-- Where some segments lead to, from the names on the way to a place: two dots take back the last
one. -/
def lead : List String → List String → List String
  | done, [] => done
  | done, s :: rest => lead (if s == ".." then done.dropLast else done ++ [s]) rest

lemma lead_append (done ss ts : List String) : lead done (ss ++ ts) = lead (lead done ss) ts := by
  induction ss generalizing done with
  | nil => rfl
  | cons s ss ih => exact ih _

lemma lead_of_notMem {done : List String} (h : ".." ∉ ss) : lead done ss = done ++ ss := by
  induction ss generalizing done with
  | nil => simp [lead]
  | cons s ss ih =>
    rw [List.mem_cons, not_or] at h
    rw [lead, if_neg (by simpa using Ne.symm h.1), ih h.2, List.append_assoc]
    rfl

lemma mem_lead {done : List String} (h : s ∈ lead done ss) : s ∈ done ∨ s ∈ ss := by
  induction ss generalizing done with
  | nil => exact .inl h
  | cons t ss ih =>
    obtain before | h := ih h
    · split at before
      · exact .inl (List.dropLast_subset _ before)
      · obtain before | same := List.mem_append.1 before
        · exact .inl before
        · exact .inr (List.mem_cons.2 (.inl (List.mem_singleton.1 same)))
    · exact .inr (List.mem_cons_of_mem t h)

/-- At the root, collapsing segments is following them. -/
lemma collapse_eq_lead {done : List String} (h : ".." ∉ done) :
    collapse true done ss = lead done.reverse ss := by
  induction ss generalizing done with
  | nil => rfl
  | cons s ss ih =>
    rw [collapse.eq_def, lead]
    dsimp only
    split
    · cases done with
      | nil => exact ih h
      | cons d ds =>
        rw [List.mem_cons, not_or] at h
        dsimp only
        rw [if_neg (by simpa using Ne.symm h.1), ih h.2]
        simp
    · next other =>
      have h : ".." ∉ s :: done := by
        rw [List.mem_cons, not_or]
        exact ⟨fun same => other (by simp [← same]), h⟩
      rw [ih h, List.reverse_cons]

lemma isAbsolute_normalise (h : isAbsolute p = true) : isAbsolute (normalise p) = true := by
  unfold normalise
  dsimp only
  rw [if_neg]
  · exact isAbsolute_rootMarks_append h _
  · obtain ⟨no, -⟩ | ⟨-, marks | marks⟩ := rootMarks_cases p
    · simp [h] at no
    · simp [marks]
    · simp [marks]

/-- The normal form of a path at the root has the segments of where it leads. -/
lemma segments_normalise (h : isAbsolute p = true) :
    segments (normalise p) = lead [] (segments p) := by
  have rooted : (rootMarks p != "") = true := by
    obtain ⟨no, -⟩ | ⟨-, marks | marks⟩ := rootMarks_cases p
    · simp [h] at no
    · simp [marks]
    · simp [marks]
  have done : collapse true [] (segments p) = lead [] (segments p) := collapse_eq_lead (by simp)
  have parts : ∀ s ∈ lead [] (segments p), IsSegment s := fun s hs =>
    isSegment_of_mem ((mem_lead hs).resolve_left (by simp))
  unfold normalise
  dsimp only
  rw [rooted, done, if_neg, segments_rootMarks_append, segments_intercalate parts]
  obtain ⟨no, -⟩ | ⟨-, marks | marks⟩ := rootMarks_cases p
  · simp [h] at no
  · simp [marks]
  · simp [marks]

lemma isAbsolute_normalise_of_relative (h : isAbsolute p = false) :
    isAbsolute (normalise p) = false := by
  obtain ⟨-, marks⟩ | ⟨yes, -⟩ := rootMarks_cases p
  · have parts : ∀ s ∈ collapse false [] (segments p), IsSegment s := fun s hs =>
      isSegment_of_mem ((mem_collapse hs).resolve_left (by simp))
    unfold normalise
    dsimp only
    rw [marks, String.empty_append]
    split
    · rfl
    · exact isAbsolute_intercalate parts
  · simp [h] at yes

lemma segments_normalise_of_relative (h : isAbsolute p = false) :
    segments (normalise p) = collapse false [] (segments p) := by
  obtain ⟨-, marks⟩ | ⟨yes, -⟩ := rootMarks_cases p
  · have parts : ∀ s ∈ collapse false [] (segments p), IsSegment s := fun s hs =>
      isSegment_of_mem ((mem_collapse hs).resolve_left (by simp))
    have body := segments_intercalate parts
    unfold normalise
    dsimp only
    rw [marks, String.empty_append]
    split
    · next none =>
      have empty : "/".intercalate (collapse false [] (segments p)) = "" := beq_iff_eq.1 none
      rw [← body, empty]
      rfl
    · exact body
  · simp [h] at yes

/-! ### Paths from a directory -/

/-- The segments of a path that is taken from the directory `here`. -/
def way (here path : String) : List String :=
  segments (join here path)

/-- Where a path leads to by its text, when it is taken from the directory `here`. -/
@[irreducible] def goal (here path : String) : List String :=
  lead [] (way here path)

/-- Collapsing segments does not change where they lead to. -/
lemma lead_collapse : ∀ {ss done back : List String},
    lead done (collapse false back ss) = lead (lead done back.reverse) ss
  | [], _, _ => rfl
  | s :: ss, done, back => by
    rw [collapse.eq_def, lead]
    dsimp only
    by_cases dots : s = ".."
    · have dots : (s == "..") = true := by simpa using dots
      rw [if_pos dots, if_pos dots]
      cases back with
      | nil =>
        change lead done (collapse false [".."] ss) = _
        rw [lead_collapse]
        rfl
      | cons d ds =>
        dsimp only
        by_cases up : (d == "..") = true
        · rw [if_pos up, lead_collapse, @List.reverse_cons _ ".." (d :: ds), lead_append, lead]
          rfl
        · rw [if_neg up, lead_collapse, List.reverse_cons, lead_append, lead, if_neg up, lead,
            List.dropLast_concat]
    · rw [if_neg (by simpa using dots), if_neg (by simpa using dots), lead_collapse,
        List.reverse_cons, lead_append, lead, if_neg (by simpa using dots)]
      rfl

/-- At the root nothing is left of two dots. -/
lemma notMem_lead {done : List String} (h : ".." ∉ done) : ".." ∉ lead done ss := by
  induction ss generalizing done with
  | nil => exact h
  | cons s ss ih =>
    refine ih ?_
    split
    · exact fun mem => h (List.dropLast_subset _ mem)
    · next name =>
      rw [List.mem_append, List.mem_singleton, not_or]
      exact ⟨h, fun same => name (by simp [← same])⟩

/-- A path in normal form leads to where the path does. -/
lemma goal_normalise (here p : String) : goal here (normalise p) = goal here p := by
  unfold goal way
  rw [segments_join, segments_join]
  cases h : isAbsolute p with
  | true =>
    rw [isAbsolute_normalise h, if_pos rfl, if_pos rfl, segments_normalise h,
      lead_of_notMem (notMem_lead (by simp)), List.nil_append]
  | false =>
    rw [isAbsolute_normalise_of_relative h, if_neg (by simp), if_neg (by simp),
      segments_normalise_of_relative h, lead_append, lead_append, lead_collapse]
    rfl

/-- A path from the root on is made of the segments of where it leads. -/
lemma resolve_eq (here path : String) : resolve here path = "/" ++ "/".intercalate (goal here path) := by
  unfold resolve goal way
  rw [collapse_eq_lead (by simp)]
  rfl

lemma isSegment_of_mem_goal (h : s ∈ goal here path) : IsSegment s := by
  unfold goal way at h
  exact isSegment_of_mem ((mem_lead h).resolve_left (by simp))

/-- The segments of a path below a directory, taken from the same place as the directory. -/
lemma way_below_of_relative (here : String) (h : isAbsolute b = false) :
    way here (below a b) = way here a ++ segments b := by
  have absolute : isAbsolute (below a b) = isAbsolute a := by
    rw [below, isAbsolute_tidy, isAbsolute_join, h, Bool.false_or]
  unfold way
  have parts : segments (below a b) = segments a ++ segments b := by
    rw [segments_below, if_neg (by simp [h])]
  rw [segments_join, segments_join, absolute, parts]
  split
  · rfl
  · rw [List.append_assoc]

/-- The way to a path ends with the segments of the path. -/
lemma exists_way (here path : String) : ∃ front, way here path = front ++ segments path := by
  unfold way
  rw [segments_join]
  split
  · exact ⟨[], rfl⟩
  · exact ⟨_, rfl⟩

/-- The last segment of a path is the last name of its place, if it is not two dots. -/
lemma exists_goal (here : String) (some : segments path ≠ []) (other : lastName path ≠ "..") :
    ∃ base, goal here path = base ++ [lastName path] := by
  obtain ⟨front, form⟩ := exists_way here path
  have last : segments path = (segments path).dropLast ++ [lastName path] := by
    rw [lastName, List.getLast?_eq_some_getLast some, Option.getD_some, List.dropLast_append_getLast]
  unfold goal
  rw [form, last, ← List.append_assoc, lead_append, lead, if_neg (by simpa using other)]
  exact ⟨_, rfl⟩

/-- A name below a directory stands where the directory does. -/
lemma goal_below (here : String) (h : IsSegment b) (other : b ≠ "..") :
    goal here (below a b) = goal here a ++ [b] := by
  unfold goal
  rw [way_below_of_relative here h.isAbsolute, h.segments, lead_append, lead, if_neg (by simpa using other),
    lead]

/-! ### Names below a directory -/

/-- A segment that leads one step down. -/
structure IsName (s : String) : Prop extends IsSegment s where
  down : s ≠ ".."

/-- A text without slashes is a name with a long enough ending behind it. -/
lemma isName_append (h : '/' ∉ a.toList) (hb : '/' ∉ b.toList) (long : 2 < b.toList.length) :
    IsName (a ++ b) := by
  have other {t : String} (ht : t.toList.length ≤ 2) : a ++ b ≠ t := by
    rintro rfl
    rw [String.toList_append, List.length_append] at ht
    omega
  refine ⟨⟨other (by decide), other (by decide), ?_⟩, other (by decide)⟩
  rw [String.toList_append, List.mem_append, not_or]
  exact ⟨h, hb⟩

lemma isName_append_ts (h : '/' ∉ s.toList) : IsName (s ++ ".ts") :=
  isName_append h (by decide) (by decide)

lemma goal_tidy (here p : String) : goal here (tidy p) = goal here p := by
  unfold goal way
  rw [segments_join, segments_join, isAbsolute_tidy, segments_tidy]

lemma goal_join (here : String) (h : IsName b) : goal here (join a b) = goal here a ++ [b] := by
  rw [← goal_tidy]
  exact goal_below here h.toIsSegment h.down

lemma goal_joinAll (here : String) (h : ∀ s ∈ ss, IsName s) :
    goal here (joinAll a ss) = goal here a ++ ss := by
  induction ss generalizing a with
  | nil => simp [joinAll]
  | cons s ss ih =>
    obtain ⟨hs, hss⟩ := List.forall_mem_cons.1 h
    change goal here (joinAll (join a s) ss) = _
    rw [ih hss, goal_join here hs, List.append_assoc]
    rfl

lemma normalise_ne_empty (p : String) : normalise p ≠ "" := by
  unfold normalise
  dsimp only
  split
  · decide
  · next some => simpa using some

/-- A name behind a slash stands where the directory does. -/
lemma goal_slash (here : String) (some : a ≠ "") (h : IsName b) :
    goal here (a ++ "/" ++ b) = goal here a ++ [b] := by
  have absolute : isAbsolute (a ++ "/" ++ b) = isAbsolute a := by
    have some : a.toList ≠ [] := fun none => some (String.toList_eq_nil_iff.1 none)
    rw [isAbsolute, isAbsolute, String.append_assoc, String.toList_append,
      List.head?_append_of_ne_nil _ some]
  have parts : way here (a ++ "/" ++ b) = way here a ++ [b] := by
    unfold way
    rw [segments_join, segments_join, absolute, segments_append_slash, h.segments]
    split
    · rfl
    · rw [List.append_assoc]
  unfold goal
  rw [parts, lead_append, lead, if_neg (by simpa using h.down), lead]

/-! ### Names behind a normal form -/

/-- A name at the end is not taken back. -/
lemma collapse_append_name {rooted : Bool} {done : List String} (h : s ≠ "..") :
    collapse rooted done (ss ++ [s]) = collapse rooted done ss ++ [s] := by
  induction ss generalizing done with
  | nil => simp [collapse, h]
  | cons t ss ih =>
    rw [List.cons_append, collapse.eq_def, collapse.eq_def rooted done (t :: ss)]
    dsimp only
    by_cases dots : (t == "..") = true
    · rw [if_pos dots, if_pos dots]
      cases done with
      | nil => cases rooted <;> exact ih
      | cons d ds =>
        dsimp only
        by_cases up : (d == "..") = true
        · rw [if_pos up, if_pos up]
          exact ih
        · rw [if_neg up, if_neg up]
          exact ih
    · rw [if_neg dots, if_neg dots]
      exact ih

/-- What stands behind a segment does not change the slashes in front. -/
lemma rootMarks_append (h : segments a ≠ []) (b : String) : rootMarks (a ++ b) = rootMarks a := by
  have other {t : String} (ht : segments t = []) : a.toList ≠ t.toList := by
    intro same
    exact h (String.toList_inj.1 same ▸ ht)
  unfold rootMarks
  rw [String.toList_append]
  cases form : a.toList with
  | nil => exact absurd form (other (t := "") rfl)
  | cons c s =>
    by_cases hc : c = '/'
    · subst hc
      cases s with
      | nil => exact absurd form (other (t := "/") rfl)
      | cons c s =>
        by_cases hc : c = '/'
        · subst hc
          cases s with
          | nil => exact absurd form (other (t := "//") rfl)
          | cons c s => by_cases hc : c = '/' <;> simp [hc]
        · simp [hc]
    · simp [hc]

/-- A relative path is put behind another as it is. -/
lemma exists_join (a : String) (h : isAbsolute b = false) : ∃ rest, join a b = a ++ rest := by
  unfold join
  rw [if_neg (by simp [h])]
  split
  · exact ⟨b, rfl⟩
  · exact ⟨"/" ++ b, String.append_assoc⟩

/-- The last segment of a path stays in the normal form, if it is a name. -/
lemma normalise_eq (hp : segments p = ss ++ [s]) (h : IsName s) : normalise p =
    rootMarks p ++ "/".intercalate (collapse (rootMarks p != "") [] ss ++ [s]) := by
  have some : "/".intercalate (collapse (rootMarks p != "") [] ss ++ [s]) ≠ "" := by
    by_cases first : collapse (rootMarks p != "") [] ss = []
    · simpa [first] using h.some
    · rw [String.intercalate_append_of_ne_nil first (by simp)]
      simp
  unfold normalise
  dsimp only
  rw [hp, collapse_append_name h.down, if_neg]
  simp [some]

/-- A file in a directory with a name is the normal form of the file below the directory. -/
lemma normalise_join_slash (hb : IsName b) (hs : IsName s) :
    normalise (join a b) ++ "/" ++ s = normalise (join (join a b) s) := by
  have inner : segments (join a b) = segments a ++ [b] := by
    rw [segments_join, if_neg (by simp [hb.isAbsolute]), hb.segments]
  have outer : segments (join (join a b) s) = segments a ++ [b] ++ [s] := by
    rw [segments_join, if_neg (by simp [hs.isAbsolute]), inner, hs.segments]
  obtain ⟨rest, form⟩ := exists_join (join a b) hs.isAbsolute
  have marks : rootMarks (join (join a b) s) = rootMarks (join a b) := by
    rw [form]
    exact rootMarks_append (by simp [inner]) rest
  rw [normalise_eq inner hb, normalise_eq outer hs, marks, collapse_append_name hb.down,
    String.intercalate_append_of_ne_nil (m := [s]) (by simp) (by simp), String.intercalate_singleton]
  simp only [String.append_assoc]

/-- A name below a name has one slash between them. -/
lemma below_of_name (ha : IsName a) (hb : IsName b) : below a b = a ++ "/" ++ b := by
  have parts : segments (join a b) = [a, b] := by
    rw [segments_join, hb.isAbsolute, ha.toIsSegment.segments, hb.toIsSegment.segments]
    rfl
  have marks : rootMarks (join a b) = "" := by
    obtain ⟨-, none⟩ | ⟨rooted, -⟩ := rootMarks_cases (join a b)
    · exact none
    · rw [isAbsolute_join] at rooted
      simp [ha.isAbsolute, hb.isAbsolute] at rooted
  have body : "/".intercalate [a, b] = a ++ "/" ++ b := by
    rw [String.intercalate_cons_of_ne_nil (by simp), String.intercalate_singleton]
  rw [below, tidy, parts, marks, String.empty_append, body, if_neg]
  simp

end ClientGen.Path
