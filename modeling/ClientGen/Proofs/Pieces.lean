import ClientGen.Proofs.Mentions
import ClientGen.Proofs.Naming.Identifiers
import Mathlib.Data.List.Infix

/-!
# The pieces of a type's text

The text of a type is put together of fixed texts and of the names of declarations. Whoever goes
through a namespace to the declarations of a file writes the same text with the namespace before each
of the file's own names, unless the namespace itself reads as a union or an intersection: a list of
these is put in parentheses.
-/

namespace ClientGen.TypeScript

open Naming Text

variable {n x : String} {t : TypeExpr} {a : Option String}

/-! ### Pieces -/

/-- A piece of a type's text. -/
inductive TypePiece
  | text (s : String)
  /-- The name of a declaration of the file itself. -/
  | own (name : String)
  /-- The name of a declaration behind a namespace. -/
  | foreign (namespace_ name : String)
  deriving DecidableEq, Repr

/-- The text of a piece. -/
def TypePiece.write : TypePiece → String
  | text s => s
  | own x => x
  | foreign m x => qualified (some m) x

/-- The piece as another file writes it that imports this one under a namespace. -/
def TypePiece.behind (n : String) : TypePiece → TypePiece
  | own x => foreign n x
  | p => p

lemma TypePiece.behind_eq_foreign {p : TypePiece} {m : String} :
    p.behind n = foreign m x ↔ p = own x ∧ m = n ∨ p = foreign m x := by
  cases p <;> simp [TypePiece.behind, and_comm, eq_comm]

/-- The text of some pieces one after another. -/
def writeAll (ps : List TypePiece) : String :=
  String.join (ps.map TypePiece.write)

@[simp] lemma writeAll_nil : writeAll [] = "" := rfl

@[simp] lemma writeAll_cons (p : TypePiece) (ps : List TypePiece) :
    writeAll (p :: ps) = p.write ++ writeAll ps :=
  String.join_cons

@[simp] lemma writeAll_append (ps qs : List TypePiece) :
    writeAll (ps ++ qs) = writeAll ps ++ writeAll qs := by
  induction ps with
  | nil => simp
  | cons p ps ih => rw [List.cons_append, writeAll_cons, ih, writeAll_cons, String.append_assoc]

/-- Whether a text reads as a union or an intersection. -/
def isCombined (s : String) : Bool :=
  occursIn " | ".toList s.toList || occursIn " & ".toList s.toList

lemma arrayText_eq (s : String) :
    arrayText s = if isCombined s = true then "(" ++ s ++ ")[]" else s ++ "[]" := rfl

/-- What stands before the type of a member. -/
def memberKey (key : String) (optional : Bool) : String :=
  key ++ (if optional then "?" else "") ++ ": "

mutual

/-- The pieces that the text of a type is made of. -/
def TypeExpr.pieces : TypeExpr → List TypePiece
  | .any => [.text "any"]
  | .string => [.text "string"]
  | .number => [.text "number"]
  | .boolean => [.text "boolean"]
  | .blob => [.text "Blob"]
  | .named none name => [.own name]
  | .named (some m) name => [.foreign m name]
  | .array item =>
    if isCombined item.text then .text "(" :: (item.pieces ++ [.text ")[]"])
    else item.pieces ++ [.text "[]"]
  | .record value => .text "Record<string, " :: (value.pieces ++ [.text ">"])
  | .object members => .text "\x7b " :: (Member.pieces members ++ [.text " \x7d"])
  | .orNull type => type.pieces ++ [.text " | null"]
  | .verbatim text => [.text text]

/-- The pieces of the members of an object type. -/
def Member.pieces : List Member → List TypePiece
  | [] => []
  | [⟨key, optional, type⟩] => .text (memberKey key optional) :: type.pieces
  | ⟨key, optional, type⟩ :: more :: rest =>
    .text (memberKey key optional) :: (type.pieces ++ .text "; " :: Member.pieces (more :: rest))

end

mutual

/-- The type as another file writes it that goes through a namespace to this one, or as this file
writes it itself. -/
def TypeExpr.behind (a : Option String) : TypeExpr → TypeExpr
  | .named none name => .named a name
  | .named (some m) name => .named (some m) name
  | .array item => .array (item.behind a)
  | .record value => .record (value.behind a)
  | .object members => .object (Member.allBehind a members)
  | .orNull type => .orNull (type.behind a)
  | .any => .any
  | .string => .string
  | .number => .number
  | .boolean => .boolean
  | .blob => .blob
  | .verbatim text => .verbatim text

/-- The members of an object type as another file writes them. -/
def Member.allBehind (a : Option String) : List Member → List Member
  | [] => []
  | ⟨key, optional, type⟩ :: rest => ⟨key, optional, type.behind a⟩ :: Member.allBehind a rest

end

mutual

/-- Inside the file nothing is put before a name. -/
@[simp] lemma TypeExpr.behind_none : ∀ t : TypeExpr, t.behind none = t
  | .any | .string | .number | .boolean | .blob | .verbatim _ | .named none _
  | .named (some _) _ => rfl
  | .array item => by rw [TypeExpr.behind, item.behind_none]
  | .record value => by rw [TypeExpr.behind, value.behind_none]
  | .object members => by rw [TypeExpr.behind, Member.allBehind_none members]
  | .orNull type => by rw [TypeExpr.behind, type.behind_none]

@[simp] lemma Member.allBehind_none : ∀ ms : List Member, Member.allBehind none ms = ms
  | [] => rfl
  | ⟨_, _, type⟩ :: rest => by rw [Member.allBehind, type.behind_none, Member.allBehind_none rest]

end

lemma TypeExpr.behind_withNull (a : Option String) (t : TypeExpr) :
    t.withNull.behind a = (t.behind a).withNull := by
  cases t with
  | named n name => cases n <;> rfl
  | _ => rfl

/-! ### Texts -/

lemma Member.texts_cons (key : String) (optional : Bool) (ms : List Member) :
    Member.texts (⟨key, optional, t⟩ :: ms) = (memberKey key optional ++ t.text) :: Member.texts ms :=
  rfl

lemma Member.texts_ne_nil (m : Member) (ms : List Member) : Member.texts (m :: ms) ≠ [] := by
  cases m
  simp [Member.texts]

mutual

/-- The text of a type is that of its pieces. -/
lemma TypeExpr.text_eq : ∀ t : TypeExpr, t.text = writeAll t.pieces
  | .any | .string | .number | .boolean | .blob | .verbatim _ => by
    simp [TypeExpr.text, TypeExpr.pieces, TypePiece.write]
  | .named none _ | .named (some _) _ => by
    simp [TypeExpr.text, TypeExpr.pieces, TypePiece.write, qualified]
  | .array item => by
    rw [TypeExpr.text, TypeExpr.pieces, arrayText_eq]
    split <;> simp [TypePiece.write, item.text_eq, String.append_assoc]
  | .record value => by
    simp [TypeExpr.text, TypeExpr.pieces, TypePiece.write, value.text_eq, String.append_assoc]
  | .object members => by
    simp [TypeExpr.text, TypeExpr.pieces, TypePiece.write, Member.texts_eq members, String.append_assoc]
  | .orNull type => by
    simp [TypeExpr.text, TypeExpr.pieces, TypePiece.write, type.text_eq]

lemma Member.texts_eq : ∀ ms : List Member,
    "; ".intercalate (Member.texts ms) = writeAll (Member.pieces ms)
  | [] => rfl
  | [⟨key, optional, type⟩] => by
    simp [Member.texts, Member.pieces, memberKey, TypePiece.write, type.text_eq]
  | ⟨key, optional, type⟩ :: more :: rest => by
    rw [Member.texts_cons, String.intercalate_cons_of_ne_nil (Member.texts_ne_nil more rest),
      Member.texts_eq (more :: rest), Member.pieces]
    simp [TypePiece.write, type.text_eq, String.append_assoc]

end

/-! ### Unions and intersections -/

/-- The characters between two types of a union or an intersection. -/
def bars : List Char := ['|', '&']

lemma occursIn_iff {p : List Char} : ∀ {s : List Char}, occursIn p s = true ↔ p <:+: s
  | [] => by simp [occursIn]
  | c :: s => by
    rw [occursIn, Bool.or_eq_true, List.isPrefixOf_iff_prefix, occursIn_iff, List.infix_cons_iff]

lemma isCombined_iff {s : String} : isCombined s = true ↔ ∃ b ∈ bars, [' ', b, ' '] <:+: s.toList := by
  simp [isCombined, occursIn_iff, bars]

/-- A character that is not looked for parts a text in two. -/
lemma infix_append_cons_iff {p A B : List Char} {d : Char} (some : p ≠ []) (other : d ∉ p) :
    p <:+: A ++ d :: B ↔ p <:+: A ∨ p <:+: B := by
  obtain ⟨e, es, rfl⟩ := List.exists_cons_of_ne_nil some
  have start (q : List Char) (h : q <+: d :: B) (mem : ∀ c ∈ q, c ∈ e :: es) : q = [] := by
    rcases List.prefix_cons_iff.1 h with rfl | ⟨q, rfl, -⟩
    · rfl
    · exact absurd (mem d List.mem_cons_self) other
  rw [List.infix_append_iff_ne_nil, List.infix_cons_iff]
  constructor
  · rintro (h | (h | h) | ⟨l, r, -, right, form, -, h⟩)
    · exact .inl h
    · exact absurd (start _ h fun _ hc => hc) some
    · exact .inr h
    · exact absurd (start r h fun c hc => form ▸ List.mem_append_right l hc) right
  · rintro (h | h)
    · exact .inl h
    · exact .inr (.inl (.inr h))

/-- A text that ends in no bar does not go on into a bar that only a namespace brings. -/
lemma infix_append_iff_of_plain {b : Char} {A m : List Char}
    (plain : ¬ [' ', b, ' '] <:+: ' ' :: m) (last : ∀ c ∈ A.getLast?, c ≠ b) :
    [' ', b, ' '] <:+: A ++ m ↔ [' ', b, ' '] <:+: A := by
  rw [List.infix_append_iff_ne_nil]
  constructor
  · rintro (h | h | ⟨l, r, left, right, form, suffix, start⟩)
    · exact h
    · exact absurd (h.trans (List.suffix_cons _ _).isInfix) plain
    · -- The bar starts before the namespace, so that one or two of its characters stand there.
      match l, left, form with
      | [c], _, form =>
        obtain ⟨rfl, rfl⟩ := List.cons.inj form
        exact absurd ((List.prefix_cons_inj ' ').2 start).isInfix plain
      | [c, d], _, form =>
        simp only [List.cons_append, List.nil_append, List.cons.injEq] at form
        obtain ⟨rfl, rfl, rfl⟩ := form
        obtain ⟨front, rfl⟩ := suffix
        exact absurd rfl (last b (by simp))
      | [c, d, e], _, form =>
        simp only [List.cons_append, List.nil_append, List.cons.injEq] at form
        exact absurd form.2.2.2.symm right
      | _ :: _ :: _ :: _ :: _, _, form => simp at form
  · exact .inl

/-- A namespace that, behind a blank, does not read as a union or an intersection. -/
def IsBarless (n : String) : Prop :=
  isCombined (" " ++ n) = false

instance (n : String) : Decidable (IsBarless n) :=
  inferInstanceAs (Decidable (_ = _))

/-- The type's own names start with letters or digits. -/
def TypeExpr.Worded (t : TypeExpr) : Prop :=
  t.MentionsOnly fun q x => q = none → StartsWord x

/-- Two texts have bars in the same places, inside whatever text stands around them that ends in no bar
before them. -/
def BarsAlike (s s' : String) : Prop :=
  ∀ b ∈ bars, ∀ A B : List Char, (∀ c ∈ A.getLast?, c ∉ bars) →
    ([' ', b, ' '] <:+: A ++ s'.toList ++ B ↔ [' ', b, ' '] <:+: A ++ s.toList ++ B)

namespace BarsAlike

variable {s s' r r' front back : String}

lemma refl (s : String) : BarsAlike s s :=
  fun _ _ _ _ _ => Iff.rfl

lemma isCombined (h : BarsAlike s s') : isCombined s' = isCombined s := by
  rw [Bool.eq_iff_iff, isCombined_iff, isCombined_iff]
  refine exists_congr fun b => and_congr_right fun hb => ?_
  simpa using h b hb [] [] (by simp)

/-- A text that ends in no bar, and that is not empty. -/
def EndsBarless (front : String) : Prop :=
  ∃ c ∈ front.toList.getLast?, c ∉ bars

lemma EndsBarless.last (h : EndsBarless front) {A : List Char} :
    ∀ c ∈ (A ++ front.toList).getLast?, c ∉ bars := by
  obtain ⟨c, last, plain⟩ := h
  rw [List.getLast?_append, last, Option.some_or]
  rintro d ⟨⟩
  exact plain

/-- Any text may stand behind. -/
lemma append (h : BarsAlike s s') : BarsAlike (s ++ back) (s' ++ back) := by
  intro b hb A B last
  simpa only [String.toList_append, List.append_assoc] using h b hb A (back.toList ++ B) last

/-- A text that ends in no bar may stand in front. -/
lemma prepend (h : BarsAlike s s') (plain : EndsBarless front) :
    BarsAlike (front ++ s) (front ++ s') := by
  intro b hb A B _
  simpa only [String.toList_append, List.append_assoc] using
    h b hb (A ++ front.toList) B plain.last

lemma trans {u : String} (h : BarsAlike s s') (h' : BarsAlike s' u) : BarsAlike s u :=
  fun b hb A B last => (h' b hb A B last).trans (h b hb A B last)

/-- Two such texts may follow each other if one between them ends in no bar. -/
lemma both (h : BarsAlike s s') (h' : BarsAlike r r') (plain : EndsBarless front) :
    BarsAlike (s ++ front ++ r) (s' ++ front ++ r') := by
  have others : BarsAlike (s ++ front ++ r) (s ++ front ++ r') := by
    intro b hb A B _
    simpa only [String.toList_append, List.append_assoc] using
      h' b hb (A ++ s.toList ++ front.toList) B plain.last
  exact others.trans h.append.append

end BarsAlike

/-- A namespace does not bring a bar before the name of a declaration. -/
lemma barsAlike_own (plain : IsBarless n) (word : StartsWord x) :
    BarsAlike x (qualified (some n) x) := by
  intro b hb A B last
  obtain ⟨d, first, letter⟩ := word
  have none : ¬ [' ', b, ' '] <:+: ' ' :: n.toList := by
    intro h
    have combined : isCombined (" " ++ n) = true :=
      isCombined_iff.2 ⟨b, hb, by rwa [String.toList_append]⟩
    rw [plain] at combined
    cases combined
  have some : [' ', b, ' '] ≠ [] := List.cons_ne_nil _ _
  have apart : ∀ b ∈ bars, b.isAlphanum = false ∧ b ≠ '.' := by
    have all : (bars.all fun b => !b.isAlphanum && b != '.') = true := by decide
    simpa using List.all_eq_true.1 all
  have other : d ∉ [' ', b, ' '] := by
    rintro (_ | ⟨_, _ | ⟨_, _ | ⟨_, ⟨⟩⟩⟩⟩)
    · exact absurd letter (by decide)
    · exact absurd letter (by simp [apart _ hb])
    · exact absurd letter (by decide)
  have dot : '.' ∉ [' ', b, ' '] := by
    simp [Ne.symm (apart b hb).2]
  cases chars : x.toList with
  | nil => simp [chars] at first
  | cons e es =>
    obtain rfl : e = d := by simpa [chars] using first
    have split : A ++ (qualified (Option.some n) x).toList ++ B =
        (A ++ n.toList) ++ '.' :: ([] ++ e :: (es ++ B)) := by
      simp [qualified, String.toList_append, chars]
    rw [split, infix_append_cons_iff some dot, infix_append_cons_iff some other,
      infix_append_iff_of_plain none fun c hc same => last c hc (same ▸ hb),
      List.append_assoc, List.cons_append, infix_append_cons_iff some other]
    simp

mutual

/-- A plain namespace brings no bars into the text of a type. -/
lemma TypeExpr.barsAlike (plain : IsBarless n) : ∀ t : TypeExpr, t.Worded →
    BarsAlike t.text (t.behind (some n)).text
  | .any, _ | .string, _ | .number, _ | .boolean, _ | .blob, _ | .verbatim _, _
  | .named (some _) _, _ => .refl _
  | .named none x, word => by
    rw [TypeExpr.behind, TypeExpr.text, TypeExpr.text]
    exact barsAlike_own plain (word none x (by simp [TypeExpr.Mentions]) rfl)
  | .array item, word => by
    have inside : BarsAlike item.text (item.behind (some n)).text :=
      item.barsAlike plain fun q x h => word q x (by simpa [TypeExpr.Mentions] using h)
    rw [TypeExpr.behind, TypeExpr.text, TypeExpr.text, arrayText_eq, arrayText_eq,
      inside.isCombined]
    split
    · exact (inside.prepend ⟨'(', by decide, by decide⟩).append
    · exact inside.append
  | .record value, word => by
    have inside : BarsAlike value.text (value.behind (some n)).text :=
      value.barsAlike plain fun q x h => word q x (by simpa [TypeExpr.Mentions] using h)
    rw [TypeExpr.behind, TypeExpr.text, TypeExpr.text]
    exact (inside.prepend ⟨' ', by decide, by decide⟩).append
  | .object members, word => by
    have inside := Member.barsAlike plain members fun q x h =>
      word q x (by simpa [TypeExpr.Mentions] using h)
    rw [TypeExpr.behind, TypeExpr.text, TypeExpr.text]
    exact (inside.prepend ⟨' ', by decide, by decide⟩).append
  | .orNull type, word => by
    have inside : BarsAlike type.text (type.behind (some n)).text :=
      type.barsAlike plain fun q x h => word q x (by simpa [TypeExpr.Mentions] using h)
    rw [TypeExpr.behind, TypeExpr.text, TypeExpr.text]
    exact inside.append

lemma Member.barsAlike (plain : IsBarless n) : ∀ ms : List Member,
    (∀ q x, Member.MentionsAny q x ms → q = none → StartsWord x) →
      BarsAlike ("; ".intercalate (Member.texts ms))
        ("; ".intercalate (Member.texts (Member.allBehind (some n) ms)))
  | [], _ => .refl _
  | ⟨key, optional, type⟩ :: rest, word => by
    have first : BarsAlike (memberKey key optional ++ type.text)
        (memberKey key optional ++ (type.behind (some n)).text) := by
      refine (type.barsAlike plain fun q x h => word q x (.inl h)).prepend ⟨' ', ?_, by decide⟩
      simp [memberKey]
    have others := Member.barsAlike plain rest fun q x h => word q x (.inr h)
    cases rest with
    | nil => exact first
    | cons more rest =>
      have some : Member.texts (Member.allBehind (some n) (more :: rest)) ≠ [] := by
        cases more
        exact Member.texts_ne_nil _ _
      rw [Member.allBehind, Member.texts_cons, Member.texts_cons,
        String.intercalate_cons_of_ne_nil (Member.texts_ne_nil more rest),
        String.intercalate_cons_of_ne_nil some]
      exact first.both others ⟨' ', by decide, by decide⟩

end

mutual

/-- Behind a plain namespace a type is made of the same pieces, with the namespace before the file's
own names. -/
lemma TypeExpr.pieces_behind (plain : IsBarless n) : ∀ t : TypeExpr, t.Worded →
    (t.behind (some n)).pieces = t.pieces.map (TypePiece.behind n)
  | .any, _ | .string, _ | .number, _ | .boolean, _ | .blob, _ | .verbatim _, _
  | .named none _, _ | .named (some _) _, _ => by
    simp [TypeExpr.behind, TypeExpr.pieces, TypePiece.behind]
  | .array item, word => by
    have inside : item.Worded := fun q x h => word q x (by simpa [TypeExpr.Mentions] using h)
    rw [TypeExpr.behind, TypeExpr.pieces, TypeExpr.pieces, (item.barsAlike plain inside).isCombined,
      item.pieces_behind plain inside]
    split <;> simp [TypePiece.behind]
  | .record value, word => by
    have inside : value.Worded := fun q x h => word q x (by simpa [TypeExpr.Mentions] using h)
    simp [TypeExpr.behind, TypeExpr.pieces, TypePiece.behind, value.pieces_behind plain inside]
  | .object members, word => by
    have inside := Member.pieces_behind plain members fun q x h =>
      word q x (by simpa [TypeExpr.Mentions] using h)
    simp [TypeExpr.behind, TypeExpr.pieces, TypePiece.behind, inside]
  | .orNull type, word => by
    have inside : type.Worded := fun q x h => word q x (by simpa [TypeExpr.Mentions] using h)
    simp [TypeExpr.behind, TypeExpr.pieces, TypePiece.behind, type.pieces_behind plain inside]

lemma Member.pieces_behind (plain : IsBarless n) : ∀ ms : List Member,
    (∀ q x, Member.MentionsAny q x ms → q = none → StartsWord x) →
      Member.pieces (Member.allBehind (some n) ms) = (Member.pieces ms).map (TypePiece.behind n)
  | [], _ => rfl
  | [⟨key, optional, type⟩], word => by
    have inside : type.Worded := fun q x h => word q x (.inl h)
    simp [Member.allBehind, Member.pieces, TypePiece.behind, type.pieces_behind plain inside]
  | ⟨key, optional, type⟩ :: ⟨key', optional', type'⟩ :: rest, word => by
    have inside : type.Worded := fun q x h => word q x (.inl h)
    have others := Member.pieces_behind plain (⟨key', optional', type'⟩ :: rest) fun q x h =>
      word q x (.inr h)
    rw [Member.allBehind] at others
    simp [Member.allBehind, Member.pieces, TypePiece.behind, type.pieces_behind plain inside, others]

end

/-- Behind a plain namespace, the text of a type is its text with the namespace before each of the
file's own names and nothing else. -/
lemma TypeExpr.text_behind (plain : IsBarless n) (word : t.Worded) :
    (t.behind (some n)).text = writeAll (t.pieces.map (TypePiece.behind n)) := by
  rw [TypeExpr.text_eq, t.pieces_behind plain word]

/-! ### Names -/

/-- The declaration that a piece names, with the namespace that it goes through. -/
def TypePiece.name? : TypePiece → Option (Option String × String)
  | text _ => none
  | own x => some (none, x)
  | foreign m x => some (some m, x)

lemma TypePiece.ne_text {p : TypePiece} {r : Option String × String} (hp : p.name? = some r)
    (s : String) : p ≠ .text s := by
  rintro rfl
  cases hp

mutual

/-- A declaration whose name is a piece of the text is one that the type refers to. -/
lemma TypeExpr.mentions_of_mem_pieces {q : Option String} {p : TypePiece} (hp : p.name? = some (q, x)) :
    ∀ t : TypeExpr, p ∈ t.pieces → t.Mentions q x
  | .any, h | .string, h | .number, h | .boolean, h | .blob, h =>
    absurd (List.mem_singleton.1 h) (TypePiece.ne_text hp _)
  | .verbatim _, _ => True.intro
  | .named none _, h | .named (some _) _, h => by
    obtain rfl := List.mem_singleton.1 h
    simpa [TypePiece.name?, TypeExpr.Mentions] using hp
  | .array item, h => by
    rw [TypeExpr.pieces] at h
    have inside : p ∈ item.pieces := by
      split at h <;> simpa [TypePiece.ne_text hp] using h
    exact item.mentions_of_mem_pieces hp inside
  | .record value, h =>
    value.mentions_of_mem_pieces hp (by simpa [TypeExpr.pieces, TypePiece.ne_text hp] using h)
  | .object members, h =>
    Member.mentions_of_mem_pieces hp members
      (by simpa [TypeExpr.pieces, TypePiece.ne_text hp] using h)
  | .orNull type, h =>
    type.mentions_of_mem_pieces hp (by simpa [TypeExpr.pieces, TypePiece.ne_text hp] using h)

lemma Member.mentions_of_mem_pieces {q : Option String} {p : TypePiece} (hp : p.name? = some (q, x)) :
    ∀ ms : List Member, p ∈ Member.pieces ms → Member.MentionsAny q x ms
  | [], h => by simp [Member.pieces] at h
  | [⟨key, optional, type⟩], h =>
    .inl (type.mentions_of_mem_pieces hp (by simpa [Member.pieces, TypePiece.ne_text hp] using h))
  | ⟨key, optional, type⟩ :: more :: rest, h => by
    have parts : p ∈ type.pieces ∨ p ∈ Member.pieces (more :: rest) := by
      simpa [Member.pieces, TypePiece.ne_text hp] using h
    exact parts.imp (type.mentions_of_mem_pieces hp)
      (Member.mentions_of_mem_pieces hp (more :: rest))

end

mutual

/-- The namespaces that a type goes through are those before the names in its text. -/
lemma TypeExpr.mem_namespaces_iff {m : String} : ∀ t : TypeExpr,
    m ∈ t.namespaces ↔ ∃ x, TypePiece.foreign m x ∈ t.pieces
  | .any | .string | .number | .boolean | .blob | .verbatim _ | .named none _
  | .named (some _) _ => by
    simp [TypeExpr.namespaces, TypeExpr.pieces]
  | .array item => by
    rw [TypeExpr.namespaces, TypeExpr.pieces, item.mem_namespaces_iff]
    split <;> simp
  | .record value => by
    simp [TypeExpr.namespaces, TypeExpr.pieces, value.mem_namespaces_iff]
  | .object members => by
    simp [TypeExpr.namespaces, TypeExpr.pieces, Member.mem_namespacesAll_iff members]
  | .orNull type => by
    simp [TypeExpr.namespaces, TypeExpr.pieces, type.mem_namespaces_iff]

lemma Member.mem_namespacesAll_iff {m : String} : ∀ ms : List Member,
    m ∈ Member.namespacesAll ms ↔ ∃ x, TypePiece.foreign m x ∈ Member.pieces ms
  | [] => by simp [Member.namespacesAll, Member.pieces]
  | [⟨key, optional, type⟩] => by
    simp [Member.namespacesAll, Member.pieces, type.mem_namespaces_iff]
  | ⟨key, optional, type⟩ :: more :: rest => by
    have others := Member.mem_namespacesAll_iff (m := m) (more :: rest)
    rw [Member.namespacesAll, List.mem_append, type.mem_namespaces_iff, others]
    simp [Member.pieces, exists_or]

end

end ClientGen.TypeScript
