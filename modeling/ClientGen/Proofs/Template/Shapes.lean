import ClientGen.Proofs.Collections
import ClientGen.Template.Render

/-!
# Shapes of contexts

What a template relies on in the values of its names. A template that relies on no more than its
context has is rendered. Inside a part on a condition, a text that may be missing is there.
-/

namespace ClientGen.Template

open Document

/-- What is relied on in a value that is no record. -/
inductive Leaf
  | any
  | text
  /-- A text, or nothing. -/
  | optional
  | list
  deriving DecidableEq

/-- What is relied on in a value. -/
inductive Shape
  | leaf (l : Leaf)
  | record (fields : List (String × Leaf))
  /-- A list of records. -/
  | records (fields : List (String × Leaf))
  deriving DecidableEq

/-- Names with what is relied on in their values, the innermost first. -/
abbrev Signature := List (String × Shape)

/-- The value is as it is relied on. -/
def Leaf.Fits (v : Value) : Leaf → Prop
  | .any => True
  | .text => ∃ s, v = .str s
  | .optional => ∃ s, v = .ofText? s
  | .list => ∃ items, v = .list items

/-- The value is a record with such fields. -/
def HasFields (fields : List (String × Leaf)) (v : Value) : Prop :=
  ∀ key l, fields.lookup key = some l → ∃ field, v.get? key = some field ∧ l.Fits field

/-- The value is as it is relied on. -/
def Shape.Fits (v : Value) : Shape → Prop
  | .leaf l => l.Fits v
  | .record fields => HasFields fields v
  | .records fields => ∃ items, v = .list items ∧ ∀ item ∈ items, HasFields fields item

/-- The values of the names are as they are relied on. -/
def Scope.Fits (scope : Scope) (σ : Signature) : Prop :=
  ∀ x shape, σ.lookup x = some shape → ∃ v, valueOfName? scope x = some v ∧ shape.Fits v

/-- What can be relied on in what a filter makes of a value, if it takes such a value. -/
def Filter.shape? : Filter → Shape → Option Shape
  | .comment, .leaf .text => some (.leaf .text)
  | .json, _ => some (.leaf .text)
  | .join _, .leaf .list => some (.leaf .text)
  | .mapJson, .leaf .list => some (.leaf .list)
  | _, _ => none

/-- What can be relied on in a field of a value, if it is there. -/
def Shape.field? (key : String) : Shape → Option Shape
  | .record fields => (fields.lookup key).map .leaf
  | _ => none

/-- What can be relied on in the value of an expression, if it has one. -/
def Expr.shape? (σ : Signature) : Expr → Option Shape
  | .name x => σ.lookup x
  | .variant _ _ => none
  | .field e key => (e.shape? σ).bind (Shape.field? key)
  | .text _ => some (.leaf .text)
  | .filtered filter e => (e.shape? σ).bind filter.shape?
  | .either a b => (a.shape? σ).bind fun _ => (b.shape? σ).map fun _ => .leaf .any
  | .choice yes condition no =>
    (yes.shape? σ).bind fun _ => (condition.shape? σ).bind fun _ =>
      (no.shape? σ).map fun _ => .leaf .any

/-- What can be relied on where the expression counts as true. -/
def Expr.assume (σ : Signature) : Expr → Signature
  | .name x => if σ.lookup x = some (.leaf .optional) then (x, .leaf .text) :: σ else σ
  | .field (.name x) key =>
    match σ.lookup x with
    | some (.record fields) =>
      if fields.lookup key = some .optional then (x, .record ((key, .text) :: fields)) :: σ else σ
    | _ => σ
  | _ => σ

/-- What is relied on in the value that tells about a loop. -/
def loopShape : Shape := .record [("last", .any)]

mutual

/-- Whether a piece relies on no more than it can. -/
def Piece.relies (σ : Signature) : Piece → Bool
  | .text _ => true
  | .hole e => (e.shape? σ).isSome
  | .each item items body _ =>
    (constants.lookup item).isNone &&
      match items.shape? σ with
      | some (.leaf .list) =>
        reliesAll ((item, .leaf .any) :: ("loop", loopShape) :: σ) body
      | some (.records fields) =>
        reliesAll ((item, .record fields) :: ("loop", loopShape) :: σ) body
      | _ => false
  | .when condition body _ =>
    (condition.shape? σ).isSome && reliesAll (condition.assume σ) body

/-- Whether some pieces rely on no more than they can. -/
def reliesAll (σ : Signature) : List Piece → Bool
  | [] => true
  | p :: rest => p.relies σ && reliesAll σ rest

end

/-! ### Expressions -/

variable {σ : Signature} {scope : Scope}

lemma Filter.apply_fits {filter : Filter} {shape shape' : Shape} {v : Value}
    (h : filter.shape? shape = some shape') (hv : shape.Fits v) :
    ∃ v', filter.apply v = .ok v' ∧ shape'.Fits v' := by
  unfold Filter.shape? at h
  split at h
  · obtain ⟨s, rfl⟩ := hv
    obtain rfl := Option.some.inj h
    exact ⟨_, rfl, _, rfl⟩
  · obtain rfl := Option.some.inj h
    exact ⟨_, rfl, _, rfl⟩
  · obtain ⟨items, rfl⟩ := hv
    obtain rfl := Option.some.inj h
    exact ⟨_, rfl, _, rfl⟩
  · obtain ⟨items, rfl⟩ := hv
    obtain rfl := Option.some.inj h
    cases items with
    | nil => exact ⟨_, rfl, [], rfl⟩
    | cons i items => exact ⟨_, rfl, _, rfl⟩
  · cases h

lemma Shape.get?_fits {key : String} {shape shape' : Shape} {v : Value}
    (h : shape.field? key = some shape') (hv : shape.Fits v) :
    ∃ field, v.get? key = some field ∧ shape'.Fits field := by
  unfold Shape.field? at h
  split at h
  · obtain ⟨l, hl, rfl⟩ := Option.map_eq_some_iff.1 h
    exact hv key l hl
  · cases h

/-- An expression that can be relied on has such a value. -/
lemma Expr.eval_fits (hs : scope.Fits σ) : ∀ (e : Expr) (shape : Shape),
    e.shape? σ = some shape → ∃ v, e.eval scope = .ok v ∧ shape.Fits v
  | .name x, shape, h => by
    obtain ⟨v, hv, hf⟩ := hs x shape h
    exact ⟨v, by rw [Expr.eval, hv], hf⟩
  | .variant _ _, _, h => by simp [Expr.shape?] at h
  | .field e key, shape, h => by
    obtain ⟨outer, he, hk⟩ := Option.bind_eq_some_iff.1 h
    obtain ⟨owner, ho, fits⟩ := e.eval_fits hs outer he
    obtain ⟨field, hf, fit⟩ := Shape.get?_fits hk fits
    refine ⟨field, ?_, fit⟩
    rw [Expr.eval, ho]
    exact by simp [bind, Except.bind, hf]
  | .text s, shape, h => by
    obtain rfl := Option.some.inj h
    exact ⟨.str s, rfl, s, rfl⟩
  | .filtered filter e, shape, h => by
    obtain ⟨inner, he, hk⟩ := Option.bind_eq_some_iff.1 h
    obtain ⟨v, hv, fits⟩ := e.eval_fits hs inner he
    obtain ⟨v', hv', fit⟩ := Filter.apply_fits hk fits
    exact ⟨v', by cases filter <;> simpa only [Expr.eval, hv] using hv', fit⟩
  | .either a b, shape, h => by
    obtain ⟨_, ha, h⟩ := Option.bind_eq_some_iff.1 h
    obtain ⟨_, hb, rfl⟩ := Option.map_eq_some_iff.1 h
    obtain ⟨v, hv, -⟩ := a.eval_fits hs _ ha
    obtain ⟨u, hu, -⟩ := b.eval_fits hs _ hb
    rw [Expr.eval, hv, hu]
    cases ht : v.truthy
    · exact ⟨u, by simp [bind, Except.bind, ht], trivial⟩
    · exact ⟨v, by simp [bind, Except.bind, ht], trivial⟩
  | .choice yes condition no, shape, h => by
    obtain ⟨_, hy, h⟩ := Option.bind_eq_some_iff.1 h
    obtain ⟨_, hc, h⟩ := Option.bind_eq_some_iff.1 h
    obtain ⟨_, hn, rfl⟩ := Option.map_eq_some_iff.1 h
    obtain ⟨v, hv, -⟩ := yes.eval_fits hs _ hy
    obtain ⟨k, hk, -⟩ := condition.eval_fits hs _ hc
    obtain ⟨u, hu, -⟩ := no.eval_fits hs _ hn
    rw [Expr.eval, hv, hk, hu]
    cases ht : k.truthy
    · exact ⟨u, by simp [bind, Except.bind, ht], trivial⟩
    · exact ⟨v, by simp [bind, Except.bind, ht], trivial⟩

/-! ### Pieces -/

lemma Scope.Fits.cons {x : String} {v : Value} {shape : Shape} (free : constants.lookup x = none)
    (hv : shape.Fits v) (hs : scope.Fits σ) : Scope.Fits ((x, v) :: scope) ((x, shape) :: σ) := by
  intro y shape' hy
  rw [List.lookup_cons] at hy
  unfold valueOfName?
  by_cases h : y = x
  · subst h
    refine ⟨v, ?_, ?_⟩
    · rw [List.append_assoc, List.lookup_append, free]
      simp
    · simp only [beq_self_eq_true] at hy
      obtain rfl := Option.some.inj hy
      exact hv
  · have hne : (y == x) = false := by simpa using h
    rw [hne] at hy
    obtain ⟨u, hu, hf⟩ := hs y shape' hy
    refine ⟨u, ?_, hf⟩
    unfold valueOfName? at hu
    simp only [List.append_assoc, List.lookup_append, List.cons_append, List.lookup_cons, hne]
      at hu ⊢
    exact hu

/-- What is known of a name may be known better. -/
lemma Scope.Fits.better {x : String} {shape : Shape} {v : Value} (hx : valueOfName? scope x = some v)
    (hv : shape.Fits v) (hs : scope.Fits σ) : scope.Fits ((x, shape) :: σ) := by
  intro y shape' hy
  rw [List.lookup_cons] at hy
  by_cases h : y = x
  · subst h
    simp only [beq_self_eq_true] at hy
    obtain rfl := Option.some.inj hy
    exact ⟨v, hx, hv⟩
  · have hne : (y == x) = false := by simpa using h
    rw [hne] at hy
    exact hs y shape' hy

/-- Where an optional text counts as true, it is there. -/
lemma Leaf.fits_text_of_truthy {v : Value} (h : Leaf.optional.Fits v) (ht : v.truthy = true) :
    Leaf.text.Fits v := by
  obtain ⟨_ | s, rfl⟩ := h
  · simp [Value.ofText?, Value.truthy] at ht
  · exact ⟨s, rfl⟩

lemma Scope.Fits.assume {e : Expr} {v : Value} (hs : scope.Fits σ) (he : e.eval scope = .ok v)
    (ht : v.truthy = true) : scope.Fits (e.assume σ) := by
  unfold Expr.assume
  split
  · next x =>
    split
    · next h =>
      obtain ⟨u, hu, fits⟩ := hs x _ h
      rw [Expr.eval, hu] at he
      obtain rfl := Except.ok.inj he
      exact hs.better hu (Leaf.fits_text_of_truthy fits ht)
    · exact hs
  · next x key =>
    split
    · next fields h =>
      split
      · next hk =>
        obtain ⟨u, hu, fits⟩ := hs x _ h
        obtain ⟨f, hf, fit⟩ := fits key _ hk
        simp only [Expr.eval, hu, bind, Except.bind, hf] at he
        obtain rfl := Except.ok.inj he
        refine hs.better hu fun key' l hl => ?_
        rw [List.lookup_cons] at hl
        by_cases h : key' = key
        · subst h
          simp only [beq_self_eq_true] at hl
          obtain rfl := Option.some.inj hl
          exact ⟨f, hf, Leaf.fits_text_of_truthy fit ht⟩
        · have hne : (key' == key) = false := by simpa using h
          rw [hne] at hl
          exact fits key' l hl
      · exact hs
    · exact hs
  · exact hs

lemma loopShape_fits {last : Bool} : loopShape.Fits (.record [("last", .bool last)]) := by
  intro key l h
  rw [List.lookup_cons] at h
  split at h
  · next hk =>
    obtain rfl : key = "last" := by simpa using hk
    exact ⟨.bool last, rfl, by obtain rfl := Option.some.inj h; trivial⟩
  · simp at h

mutual

/-- A piece that relies on no more than it can is rendered. -/
lemma Piece.exists_render {σ : Signature} {scope : Scope} (hs : scope.Fits σ) :
    ∀ p : Piece, p.relies σ = true → ∃ s, p.render scope = .ok s
  | .text s, _ => ⟨s, by rw [Piece.render]⟩
  | .hole e, h => by
    rw [Piece.relies] at h
    obtain ⟨shape, he⟩ := Option.isSome_iff_exists.1 h
    obtain ⟨v, hv, -⟩ := e.eval_fits hs shape he
    exact ⟨v.shown, by rw [Piece.render, hv]; rfl⟩
  | .each item items body ownLine, h => by
    rw [Piece.relies, Bool.and_eq_true, Option.isNone_iff_eq_none] at h
    obtain ⟨free, h⟩ := h
    have rendered (values : List Value) (shape : Shape) (hv : ∀ v ∈ values, shape.Fits v)
        (hb : reliesAll ((item, shape) :: ("loop", loopShape) :: σ) body = true)
        (he : items.eval scope = .ok (.list values)) :
        ∃ s, (Piece.each item items body ownLine).render scope = .ok s := by
      obtain ⟨parts, hp⟩ := exists_mapM_ok (f := fun (p : Value × Nat) =>
        renderAll ((item, p.1) :: ("loop",
          Value.record [("last", .bool (p.2 + 1 == values.length))]) :: scope) body)
        values.zipIdx fun p hp => exists_renderAll
          (((hs.cons rfl loopShape_fits).cons free (hv p.1 (List.fst_mem_of_mem_zipIdx hp)))) body hb
      refine ⟨String.join parts, ?_⟩
      rw [Piece.render, he]
      simp only [bind, Except.bind, itemsOf, Value.opened, hp]
      rfl
    split at h
    · next hi =>
      obtain ⟨_, hv, values, rfl⟩ := items.eval_fits hs _ hi
      exact rendered values (.leaf .any) (fun _ _ => trivial) h hv
    · next fields hi =>
      obtain ⟨_, hv, values, rfl, fits⟩ := items.eval_fits hs _ hi
      exact rendered values (.record fields) fits h hv
    · simp at h
  | .when condition body ownLine, h => by
    rw [Piece.relies, Bool.and_eq_true] at h
    obtain ⟨shape, hc⟩ := Option.isSome_iff_exists.1 h.1
    obtain ⟨v, hv, -⟩ := condition.eval_fits hs shape hc
    rw [Piece.render, hv]
    cases ht : v.truthy
    · exact ⟨"", by simp [bind, Except.bind, ht, pure, Except.pure]⟩
    · obtain ⟨s, hr⟩ := exists_renderAll (hs.assume hv ht) body h.2
      exact ⟨s, by simp [bind, Except.bind, ht, hr]⟩

lemma exists_renderAll {σ : Signature} {scope : Scope} (hs : scope.Fits σ) :
    ∀ ps : List Piece, reliesAll σ ps = true → ∃ s, renderAll scope ps = .ok s
  | [], _ => ⟨"", by rw [renderAll]⟩
  | p :: rest, h => by
    rw [reliesAll, Bool.and_eq_true] at h
    obtain ⟨s, hr⟩ := Piece.exists_render hs p h.1
    obtain ⟨t, hr'⟩ := exists_renderAll hs rest h.2
    exact ⟨s ++ t, by rw [renderAll, hr, hr']; rfl⟩

end

/-- A template is rendered if its context has all that the template relies on. -/
theorem exists_render {t : ClientGen.Template} {context : Scope}
    (relies : reliesAll σ t = true) (fits : context.Fits σ)
    (self : context.lookup selfWord = none) : ∃ s, t.render context = .ok s := by
  unfold ClientGen.Template.render
  rw [self]
  exact exists_renderAll fits t relies

/-! ### Contexts -/

/-- The values are under the given names and as they are relied on, one after another. -/
def Matches {β : Type} (fits : Value → β → Prop) (names : List (String × β))
    (values : List (String × Value)) : Prop :=
  List.Forall₂ (fun n e => n.1 = e.1 ∧ fits e.2 n.2) names values

lemma Matches.lookup {β : Type} {fits : Value → β → Prop} {names : List (String × β)}
    {values : List (String × Value)} (h : Matches fits names values) {x : String} {b : β}
    (hx : names.lookup x = some b) : ∃ v, values.lookup x = some v ∧ fits v b := by
  induction h with
  | nil => simp at hx
  | @cons n e names values hn _ ih =>
    rw [List.lookup_cons] at hx ⊢
    rw [← hn.1]
    cases h : x == n.1 with
    | true =>
      rw [h] at hx
      obtain rfl := Option.some.inj hx
      exact ⟨e.2, rfl, hn.2⟩
    | false =>
      rw [h] at hx
      exact ih hx

lemma Matches.append {β : Type} {fits : Value → β → Prop} {names names' : List (String × β)}
    {values values' : List (String × Value)} (h : Matches fits names values)
    (h' : Matches fits names' values') : Matches fits (names ++ names') (values ++ values') := by
  induction h with
  | nil => exact h'
  | cons hn _ ih => exact .cons hn ih

lemma Matches.map_fst {β : Type} {fits : Value → β → Prop} {names : List (String × β)}
    {values : List (String × Value)} (h : Matches fits names values) :
    values.map Prod.fst = names.map Prod.fst := by
  induction h with
  | nil => rfl
  | cons hn _ ih => rw [List.map_cons, List.map_cons, ih, hn.1]

lemma lookup_record {values : List (String × Value)} {key : String} :
    (Value.record values).get? key = values.lookup key := by
  simp only [Value.get?, Value.record, Value.opened, Value.lookup?]
  induction values with
  | nil => rfl
  | cons e rest ih =>
    rw [List.map_cons, List.find?_cons, List.lookup_cons]
    by_cases h : key = e.1
    · simp [Value.sameKey, h]
    · have hne : (key == e.1) = false := by simpa using h
      have hne' : (e.1 == key) = false := by simpa using Ne.symm h
      simp only [Value.sameKey, hne, hne']
      exact ih

/-- A record with matching entries has the fields that are relied on. -/
lemma hasFields_record {fields : List (String × Leaf)} {values : List (String × Value)}
    (h : Matches Leaf.Fits fields values) : HasFields fields (.record values) := by
  intro key l hl
  rw [lookup_record]
  exact h.lookup hl

/-- A context with matching entries is as it is relied on, unless a constant hides one. -/
lemma Matches.scope_fits (h : Matches Shape.Fits σ scope)
    (free : ∀ e ∈ σ, constants.lookup e.1 = none) : scope.Fits σ := by
  intro x shape hx
  obtain ⟨v, hv, fits⟩ := h.lookup hx
  refine ⟨v, ?_, fits⟩
  obtain ⟨before, after, rfl, -⟩ := List.lookup_eq_some_iff.1 hx
  have hc := free (x, shape) (by simp)
  rw [valueOfName?, List.append_assoc, List.lookup_append, hc, List.lookup_append, hv]
  rfl

end ClientGen.Template
