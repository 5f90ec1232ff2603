import ClientGen.Proofs.Template.Builtin
import ClientGen.Text.Chars
import ClientGen.TypeScript.Declaration
import Mathlib.Tactic.Common

/-!
# What pieces are rendered as

The text of each kind of piece, given the values that it asks for.
-/

namespace ClientGen

open Document Template

variable {scope : Scope}

/-! ### Texts -/

lemma render_literal (s : String) : (Piece.text s).render scope = .ok s := rfl

lemma render_text {e : Expr} {s : String} (value : e.eval scope = .ok (.str s)) :
    (Piece.hole e).render scope = .ok s := by
  simp only [Piece.render, value, Functor.map, Except.map, Value.shown]

lemma render_shown {x s : String} (found : valueOfName? scope x = some (.str s)) :
    (shown x).render scope = .ok s :=
  render_text (by rw [Expr.eval, found])

lemma render_json {e : Expr} {s : String} (value : e.eval scope = .ok (.str s)) :
    (Piece.hole (.filtered .json e)).render scope = .ok (jsonText (.str s)) := by
  simp only [Piece.render, Expr.eval, value, Filter.apply, Functor.map, Except.map, Value.shown]

/-- A hole that joins texts. -/
lemma render_texts {e : Expr} {separator : String} {texts : List String}
    (value : e.eval scope = .ok (.texts texts)) :
    (Piece.hole (.filtered (.join separator) e)).render scope =
      .ok (separator.intercalate texts) := by
  have items : itemsOf (.texts texts) = .ok (texts.map Value.str) := rfl
  have shown : (texts.map Value.str).map Value.shown = texts := by
    rw [List.map_map]
    exact List.map_id'' (fun _ => rfl) texts
  simp only [Piece.render, Expr.eval, value, Filter.apply, items, shown, bind, Except.bind, pure,
    Except.pure, Functor.map, Except.map, Value.shown]

lemma render_joined {x separator : String} {texts : List String}
    (found : valueOfName? scope x = some (.texts texts)) :
    (Piece.hole (.filtered (.join separator) (.name x))).render scope =
      .ok (separator.intercalate texts) :=
  render_texts (by rw [Expr.eval, found])

/-- A hole that shows a text on a condition. -/
lemma render_choice {x yes no : String} {b : Bool} (found : valueOfName? scope x = some (.bool b)) :
    (Piece.hole (.choice (.text yes) (.name x) (.text no))).render scope =
      .ok (if b then yes else no) := by
  simp only [Piece.render, Expr.eval, found]
  cases b <;> rfl

/-- A part on a condition. -/
lemma render_when {e : Expr} {v : Value} {body : List Piece} {ownLine : Bool}
    (value : e.eval scope = .ok v) : (Piece.when e body ownLine).render scope =
      if v.truthy then renderAll scope body else .ok "" := by
  simp only [Piece.render, value, bind, Except.bind]
  rfl

/-! ### Loops -/

section Loops

variable {α : Type} {item list : String} {body : List Piece} {f : α → Value} {ownLine : Bool}

/-- What a template sees of a loop. -/
def loopEntry (last : Bool) : Value :=
  .record [("last", .bool last)]

lemma mapM_renderAll {g : α → Bool → String} {count : Nat} : ∀ {items : List α} {k : Nat},
    (∀ a ∈ items, ∀ last,
      renderAll ((item, f a) :: ("loop", loopEntry last) :: scope) body = .ok (g a last)) →
    (((items.map f).zipIdx k).mapM fun p => renderAll
      ((item, p.1) :: ("loop", .record [("last", .bool (p.2 + 1 == count))]) :: scope) body) =
      .ok ((items.zipIdx k).map fun p => g p.1 (p.2 + 1 == count))
  | [], _, _ => by
    rw [List.map_nil, List.zipIdx_nil, List.mapM_nil]
    rfl
  | a :: rest, k, each => by
    have first := each a List.mem_cons_self (k + 1 == count)
    unfold loopEntry at first
    rw [List.map_cons, List.zipIdx_cons, List.mapM_cons, first,
      mapM_renderAll fun b hb => each b (List.mem_cons_of_mem a hb)]
    rfl

/-- A loop whose body may ask whether it is at its end. -/
lemma render_loop {g : α → Bool → String} {e : Expr} {items : List α}
    (value : e.eval scope = .ok (.list (items.map f)))
    (each : ∀ a ∈ items, ∀ last,
      renderAll ((item, f a) :: ("loop", loopEntry last) :: scope) body = .ok (g a last)) :
    (Piece.each item e body ownLine).render scope =
      .ok (String.join (items.zipIdx.map fun p => g p.1 (p.2 + 1 == items.length))) := by
  rw [Piece.render]
  simp only [value, bind, Except.bind, itemsOf, Value.opened, List.length_map]
  rw [mapM_renderAll each]
  rfl

/-- A loop whose body does not ask whether it is at its end. -/
lemma render_items {g : α → String} {e : Expr} {items : List α}
    (value : e.eval scope = .ok (.list (items.map f)))
    (each : ∀ a ∈ items, ∀ last,
      renderAll ((item, f a) :: ("loop", last) :: scope) body = .ok (g a)) :
    (Piece.each item e body ownLine).render scope = .ok (String.join (items.map g)) := by
  have items_eq : items.zipIdx.map (fun p => g p.1) = items.map g := by
    have split : items.zipIdx.map (fun p => g p.1) = (items.zipIdx.map Prod.fst).map g := by
      rw [List.map_map]
      rfl
    rw [split, List.zipIdx_map_fst]
  rw [render_loop value fun a ha last => each a ha (loopEntry last), items_eq]

lemma render_each {g : α → String} {items : List α}
    (found : valueOfName? scope list = some (.list (items.map f)))
    (each : ∀ a ∈ items, ∀ last,
      renderAll ((item, f a) :: ("loop", last) :: scope) body = .ok (g a)) :
    (Piece.each item (.name list) body ownLine).render scope = .ok (String.join (items.map g)) :=
  render_items (by rw [Expr.eval, found]) each

end Loops

end ClientGen

/-!
## The ends of texts

What is left of a text when the characters of a class are dropped from its end.
-/

namespace ClientGen

namespace Text

lemma dropEndWhile_append {p : Char → Bool} {s tail : List Char} (h : ∀ c ∈ tail, p c = true) :
    dropEndWhile p (s ++ tail) = dropEndWhile p s := by
  have none : dropEndWhile p tail = [] := by
    unfold dropEndWhile
    induction tail with
    | nil => rfl
    | cons c tail ih =>
      obtain ⟨hc, ht⟩ := List.forall_mem_cons.1 h
      rw [List.foldr_cons, ih ht]
      simp [hc]
  unfold dropEndWhile at none ⊢
  rw [List.foldr_append, none]

lemma dropEndWhile_of_last {p : Char → Bool} {c : Char} (h : p c = false) :
    ∀ s : List Char, dropEndWhile p (s ++ [c]) = s ++ [c]
  | [] => by simp [dropEndWhile, h]
  | d :: s => by
    have ih := dropEndWhile_of_last h s
    unfold dropEndWhile at ih ⊢
    rw [List.cons_append, List.foldr_cons, ih]
    simp

end Text

/-- A line feed behind a text that ends with another character is dropped. -/
lemma TypeScript.withoutLastLines_append (s : String) {tail : String}
    (h : tail.toList.getLast?.any (· != '\n') = true) :
    withoutLastLines (s ++ tail ++ "\n") = s ++ tail := by
  obtain ⟨c, hc, other⟩ := (Option.any_eq_true _ _).1 h
  obtain ⟨front, ht⟩ := List.getLast?_eq_some_iff.1 hc
  have last : (c == '\n') = false := by simpa using other
  have whole : (s ++ tail ++ "\n").toList = (s.toList ++ front ++ [c]) ++ ['\n'] := by simp [ht]
  unfold withoutLastLines
  rw [whole, Text.dropEndWhile_append (by simp),
    Text.dropEndWhile_of_last (p := fun x => x == '\n') last, List.append_assoc, ← ht,
    ← String.toList_append, String.ofList_toList]

end ClientGen
