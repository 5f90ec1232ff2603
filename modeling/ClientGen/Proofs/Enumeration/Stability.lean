import ClientGen.Proofs.Enumeration.Names

/-!
# Names that stay

Whoever asks for the name of an enumeration again gets the same name again, whatever was asked in
between. One thing stands in the way. A place whose name was found by the values alone is not bound
to it by a key of its own, and a question that has the same key for something else may bind that key
to another name.
-/

namespace ClientGen.Enumeration

variable {p q q' : Question} {r r' : Registry} {qs : List Question} {key x : String}

namespace Question

/-- The same question again, with the values in any order. -/
inductive Repeats : Question → Question → Prop
  | schema {values values' : List String} (order : values.Perm values') (s : String) :
      Repeats (schema values s) (schema values' s)
  | inline {values values' : List String} (order : values.Perm values')
      (context : Option Context) : Repeats (inline values context) (inline values' context)

/-- The name that an enumeration has already. -/
def known? (q : Question) (r : Registry) : Option String :=
  match q with
  | schema _ s => r.lookup? (Registry.schemaKey s)
  | inline values context => r.known? values context

/-- The enumeration has no name by the key of its place, but one by its values. -/
def FoundByValues (q : Question) (r : Registry) : Prop :=
  ∃ key, q.contextKey? = some key ∧ r.lookup? key = none ∧ r.lookup? q.valueKey ≠ none

/-- The key of a place is bound, or there is none. -/
def IsSettled (q : Question) (r : Registry) : Prop :=
  ∀ key, q.contextKey? = some key → r.lookup? key ≠ none

/-- A question has the key of another one's place for something else: for a schema, for some values,
or for a place of other values. -/
def Disturbs (p q : Question) : Prop :=
  ∃ key, q.contextKey? = some key ∧
    (p.schemaKey? = some key ∨ p.valueKey = key ∨
      p.contextKey? = some key ∧ p.valueKey ≠ q.valueKey)

/-! ### The same question again -/

lemma Repeats.known? (same : q.Repeats q') (r : Registry) : q'.known? r = q.known? r := by
  cases same with
  | schema order s => rfl
  | inline order context =>
    simp only [Question.known?, Registry.known?, Registry.contextKey?, Enumeration.valueKey,
      sortTexts_perm order]

/-! ### What is known -/

/-- A known name is the answer, and nothing changes. -/
lemma ask_of_known? (known : q.known? r = some x) : q.ask r = (x, r) := by
  cases q with
  | schema values s =>
    change r.lookup? (Registry.schemaKey s) = some x at known
    simp only [ask, Registry.nameOfSchema, known]
  | inline values context => exact Registry.nameOf_of_known? known

/-- The answer is known from then on. -/
lemma known?_ask : q.known? (q.ask r).2 = some (q.ask r).1 := by
  cases q with
  | schema values s => exact Registry.lookup?_nameOfSchema
  | inline values context =>
    cases new : r.known? values context with
    | some bound =>
      rw [ask_of_known? (q := inline values context) new]
      exact new
    | none => exact Registry.known?_of_ownKey (Registry.lookup?_nameOf_of_new new)

/-- A name is known by a key of the enumeration's own, or else by its values. -/
lemma known?_eq_some (known : q.known? r = some x) :
    (∃ key, (q.schemaKey? = some key ∨ q.contextKey? = some key) ∧ r.lookup? key = some x) ∨
      q.schemaKey? = none ∧ (∀ key, q.contextKey? = some key → r.lookup? key = none) ∧
        r.lookup? q.valueKey = some x := by
  cases q with
  | schema values s => exact .inl ⟨_, .inl rfl, known⟩
  | inline values context =>
    change r.known? values context = some x at known
    unfold Registry.known? at known
    split at known
    · next bound found =>
      obtain ⟨key, place, found⟩ := Option.bind_eq_some_iff.1 found
      exact .inl ⟨key, .inr place, found.trans known⟩
    · next free =>
      refine .inr ⟨rfl, fun key place => ?_, known⟩
      rw [show Registry.contextKey? values context = some key from place] at free
      exact free

/-- What one of its own keys is bound to is the name of the enumeration. -/
lemma known?_of_lookup? (own : q.schemaKey? = some key ∨ q.contextKey? = some key)
    (found : r.lookup? key = some x) : q.known? r = some x := by
  cases q with
  | schema values s =>
    obtain rfl := Option.some.inj (own.resolve_right (by nofun))
    exact found
  | inline values context =>
    have place : Registry.contextKey? values context = some key := own.resolve_left (by nofun)
    change r.known? values context = some x
    rw [Registry.known?, place, Option.bind_some, found]

/-- Without a name by a key of its own, the enumeration has that of its values. -/
lemma known?_of_valueKey (inside : q.schemaKey? = none)
    (free : ∀ key, q.contextKey? = some key → r.lookup? key = none)
    (found : r.lookup? q.valueKey = some x) : q.known? r = some x := by
  cases q with
  | schema values s => cases inside
  | inline values context =>
    change r.known? values context = some x
    unfold Registry.known?
    rcases place : Registry.contextKey? values context with _ | key
    · exact found
    · rw [Option.bind_some, free key place]
      exact found

/-! ### What stays known -/

/-- A name that was not found by the values alone stays, whatever is bound later. -/
lemma known?_of_le (settled : q.IsSettled r) (later : r ≤ r') (known : q.known? r = some x) :
    q.known? r' = some x := by
  rcases known?_eq_some known with ⟨key, own, found⟩ | ⟨inside, free, found⟩
  · exact known?_of_lookup? own (later key x found)
  · exact known?_of_valueKey inside (fun key place => absurd (free key place) (settled key place))
      (later _ x found)

/-- Behind its own question an enumeration is settled, unless its name was found by the values. -/
lemma isSettled_ask (own : ¬ q.FoundByValues r) : q.IsSettled (q.ask r).2 := by
  intro key place free
  cases q with
  | schema values s => cases place
  | inline values context =>
    cases new : r.known? values context with
    | some bound =>
      rw [ask_of_known? (q := inline values context) new] at free
      rcases known?_eq_some (q := inline values context) new with ⟨key', own', found⟩ | ⟨-, -, found⟩
      · obtain rfl := Option.some.inj (place.symm.trans (own'.resolve_left (by nofun)))
        rw [free] at found
        cases found
      · exact own ⟨key, place, free, by simp [found]⟩
    | none =>
      have bound := Registry.lookup?_nameOf_of_new new
      rw [Registry.ownKey, show Registry.contextKey? values context = some key from place] at bound
      exact absurd (free.symm.trans bound) (by simp)

/-- A question with the key of a place, which does not disturb that place, is about a place of the
same values. -/
lemma same_of_mem_keys (calm : ¬ p.Disturbs q) (place : q.contextKey? = some key)
    (shared : key ∈ p.keys) :
    ∃ values context, p = inline values context ∧ p.valueKey = q.valueKey := by
  have apart (h : p.schemaKey? = some key ∨ p.valueKey = key ∨
      p.contextKey? = some key ∧ p.valueKey ≠ q.valueKey) : False := calm ⟨key, place, h⟩
  simp only [keys, List.mem_append, Option.mem_toList, List.mem_singleton] at shared
  rcases shared with (schema | inside) | values
  · exact absurd (.inl schema) apart
  · cases p with
    | schema values s => cases inside
    | inline values context =>
      refine ⟨values, context, rfl, ?_⟩
      by_contra other
      exact apart (.inr (.inr ⟨inside, other⟩))
  · exact absurd (.inr (.inl values.symm)) apart

/-- A question that does not disturb an enumeration leaves it its name. -/
lemma known?_ask_of_calm (calm : ¬ p.Disturbs q) (known : q.known? r = some x) :
    q.known? (p.ask r).2 = some x := by
  rcases known?_eq_some known with ⟨key, own, found⟩ | ⟨inside, free, found⟩
  · exact known?_of_lookup? own (Registry.le_ask key x found)
  · refine known?_of_valueKey inside (fun key place => ?_) (Registry.le_ask _ x found)
    by_contra bound
    obtain ⟨y, bound⟩ := Option.ne_none_iff_exists'.1 bound
    rcases Registry.ask_cases p r with ⟨-, same⟩ | ⟨-, -, binds⟩
    · rw [same, free key place] at bound
      cases bound
    · obtain old | ⟨shared, -⟩ := binds key y bound
      · rw [free key place] at old
        cases old
      · -- The other place has the same values, so that it finds a name and binds nothing.
        obtain ⟨values, context, rfl, same⟩ := same_of_mem_keys calm place shared
        obtain ⟨z, other⟩ : ∃ z, (inline values context).known? r = some z := by
          change ∃ z, r.known? values context = some z
          unfold Registry.known?
          split
          · exact ⟨_, rfl⟩
          · rw [← same] at found
            exact ⟨x, found⟩
        rw [ask_of_known? other, free key place] at bound
        cases bound

/-- Questions that do not disturb an enumeration leave it its name. -/
lemma known?_after_of_calm (calm : ∀ p ∈ qs, ¬ p.Disturbs q) (known : q.known? r = some x) :
    q.known? (r.after qs) = some x := by
  induction qs generalizing r with
  | nil => exact known
  | cons p rest ih =>
    obtain ⟨first, rest⟩ := List.forall_mem_cons.1 calm
    exact ih rest (known?_ask_of_calm first known)

/-- If the kinds of keys are apart, no question disturbs another. -/
lemma calm_of_keysApart {P : Questions} (apart : KeysApart P) (hp : P p) (hq : P q) :
    ¬ p.Disturbs q := by
  rintro ⟨key, place, schema | values | ⟨inside, other⟩⟩
  · exact (apart.places q p key hq hp place).2 schema
  · exact (apart.places q p key hq hp place).1 values.symm
  · have same := apart.values p q hp hq
      ⟨key, mem_keys_of_contextKey? inside, mem_keys_of_contextKey? place⟩
    exact other (by rw [valueKey, Enumeration.valueKey, same, valueKey, Enumeration.valueKey])

end Question

namespace Registry

lemma le_after : r ≤ r.after qs := by
  induction qs generalizing r with
  | nil => exact le_refl r
  | cons q rest ih => exact le_ask.trans ih

/-- Whoever asks again gets the same name again, and nothing new is bound. A name that was found by
the values alone stays as long as no question in between has the key of its place for something
else; every other name stays whatever is asked. -/
theorem ask_again (same : q.Repeats q')
    (calm : q.FoundByValues r → ∀ p ∈ qs, ¬ p.Disturbs q) :
    q'.ask ((q.ask r).2.after qs) = ((q.ask r).1, (q.ask r).2.after qs) := by
  refine Question.ask_of_known? ((same.known? _).trans ?_)
  by_cases found : q.FoundByValues r
  · exact Question.known?_after_of_calm (calm found) Question.known?_ask
  · exact Question.known?_of_le (Question.isSettled_ask found) le_after Question.known?_ask

/-- The state of an order, whose values have been seen before. -/
def seenState : Question :=
  .inline ["b", "a"] (some ⟨"status", "Order"⟩)

/-- A registry that has seen two values without a place. -/
def seenValues : Registry :=
  ((Question.inline ["a", "b"] none).ask {}).2

/-- The state of an order is found by its values, and keeps its name behind other questions. -/
theorem ask_again_seenState : seenState.FoundByValues seenValues ∧
    (Question.inline ["a", "b"] (some ⟨"status", "Order"⟩)).ask
        ((seenState.ask seenValues).2.after orderQuestions) =
      ((seenState.ask seenValues).1, (seenState.ask seenValues).2.after orderQuestions) := by
  have apart : KeysApart (· ∈ seenState :: orderQuestions) := by
    apply keysApart_of_plain (by decide) ?_ (by decide)
    intro values values' s h h'
    simp only [seenState, orderQuestions, List.mem_cons, Question.schema.injEq, List.not_mem_nil,
      reduceCtorEq, or_false, false_or] at h h'
    rw [h.1, h'.1]
  have sorted : sortTexts ["b", "a"] = ["a", "b"] := by
    simp [sortTexts, List.mergeSort, List.MergeSort.Internal.splitInTwo]
  have sorted' : sortTexts ["a", "b"] = ["a", "b"] := by
    simp [sortTexts, List.mergeSort, List.MergeSort.Internal.splitInTwo]
  constructor
  · refine ⟨"a,b:Order", ?_, ?_, ?_⟩
    all_goals
      simp only [seenState, seenValues, Question.contextKey?, Question.valueKey, Question.values,
        Question.ask, nameOf, known?, contextKey?, inlineIdentifier, valueKey, sorted, sorted']
      decide +kernel
  · apply ask_again (.inline (.swap "a" "b" []) _)
    intro _ p hp
    exact Question.calm_of_keysApart apart (List.mem_cons_of_mem _ hp) List.mem_cons_self

/-- The one value `a:Order` has the key of that place, and gives the place another name. -/
example :
    let r := ((Question.inline ["a"] none).ask {}).2
    let place : Question := .inline ["a"] (some ⟨"status", "Order"⟩)
    (place.ask r).1 = "AEnum" ∧
      (place.ask ((place.ask r).2.after [.inline ["a:Order"] none])).1 = "AOrderEnum" := by
  decide +kernel

end Registry

end ClientGen.Enumeration
