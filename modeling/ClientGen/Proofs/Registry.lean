import ClientGen.Enumeration
import Mathlib.Order.Basic
import Mathlib.Tactic.Common

/-!
# The registry of enumerations

A key that is bound stays bound. Whoever asks for a name with the key that the name was made for
gets that name again, however many names have been made since.
-/

namespace ClientGen.Enumeration.Registry

variable {r r' : Registry} {key name schema : String} {values : List String}
  {context : Option Context}

/-- A registry comes before another if every key keeps its identifier. -/
instance : Preorder Registry where
  le r r' := ∀ key name, r.lookup? key = some name → r'.lookup? key = some name
  le_refl _ _ _ h := h
  le_trans _ _ _ h h' key name hn := h' key name (h key name hn)

/-- An identifier that some key is bound to. -/
def Binds (r : Registry) (name : String) : Prop :=
  ∃ key, r.lookup? key = some name

lemma Binds.mono (hle : r ≤ r') (h : r.Binds name) : r'.Binds name := by
  obtain ⟨key, hk⟩ := h
  exact ⟨key, hle key name hk⟩

/-- Registration binds a free key and nothing else. -/
lemma lookup?_register (k : String) :
    (r.register key name).2.lookup? k =
      (r.lookup? k).or (if k = key ∧ r.lookup? key = none then some name else none) := by
  unfold register
  split
  · next bound hb => simp [hb]
  · next hn =>
    simp only [lookup?, List.lookup_append, List.lookup_cons, List.lookup_nil] at hn ⊢
    by_cases h : k = key
    · simp [h, hn]
    · have hne : (k == key) = false := by simpa using h
      simp [h, hne]

lemma lookup?_assign (k : String) : (r.assign name key).2.lookup? k = r.lookup? k := rfl

lemma le_register : r ≤ (r.register key name).2 := by
  intro k x h
  rw [lookup?_register, h]
  rfl

lemma lookup?_register_self (free : r.lookup? key = none) :
    (r.register key name).2.lookup? key = some name := by
  simp [lookup?_register, free]

/-- What a key is bound to after a registration, it was bound to before, or it is the new name. -/
lemma lookup?_of_register {k x : String} (h : (r.register key name).2.lookup? k = some x) :
    r.lookup? k = some x ∨ x = name := by
  rw [lookup?_register, Option.or_eq_some_iff] at h
  rcases h with h | ⟨-, h⟩
  · exact .inl h
  · split at h
    · exact .inr (by simpa using h.symm)
    · simp at h

/-! ### Enumerations that are schemas -/

/-- After the question the schema's key is bound to the answer. -/
lemma lookup?_nameOfSchema :
    (r.nameOfSchema values schema).2.lookup? (schemaKey schema) =
      some (r.nameOfSchema values schema).1 := by
  unfold nameOfSchema
  split
  · next bound hb => exact hb
  · next hn => exact le_register _ _ (lookup?_register_self hn)

lemma le_nameOfSchema : r ≤ (r.nameOfSchema values schema).2 := by
  unfold nameOfSchema
  split
  · exact le_refl r
  · exact (le_register (r := (r.assign _ _).2)).trans le_register

/-- The question binds nothing but the answer, and nothing at all if the schema's key is bound. -/
lemma lookup?_of_nameOfSchema {k x : String}
    (h : (r.nameOfSchema values schema).2.lookup? k = some x) :
    r.lookup? k = some x ∨
      x = (r.nameOfSchema values schema).1 ∧ r.lookup? (schemaKey schema) = none := by
  unfold nameOfSchema at h ⊢
  split at h
  · exact .inl h
  · next hn =>
    rcases lookup?_of_register h with h | rfl
    · rcases lookup?_of_register h with h | rfl
      · exact .inl h
      · exact .inr ⟨rfl, hn⟩
    · exact .inr ⟨rfl, hn⟩

/-! ### Enumerations inside schemas -/

/-- The key that a name is made for: that of the context if there is one. -/
def ownKey (values : List String) (context : Option Context) : String :=
  (contextKey? values context).getD (valueKey values)

lemma known?_of_ownKey (h : r.lookup? (ownKey values context) = some name) :
    r.known? values context = some name := by
  unfold ownKey at h
  unfold known?
  cases hk : contextKey? values context with
  | none =>
    rw [hk] at h
    exact h
  | some key =>
    rw [hk] at h
    simp only [Option.getD_some] at h
    simp [h]

lemma known?_mono (hle : r ≤ r') (h : (r.known? values context).isSome) :
    (r'.known? values context).isSome := by
  unfold known? at h ⊢
  split
  · rfl
  · next hn =>
    split at h
    · next bound hb =>
      cases hk : contextKey? values context with
      | none => simp [hk] at hb
      | some key =>
        rw [hk] at hn hb
        rw [Option.bind_some] at hn hb
        rw [hle _ _ hb] at hn
        simp at hn
    · obtain ⟨x, hx⟩ := Option.isSome_iff_exists.1 h
      rw [hle _ _ hx]
      rfl

lemma binds_of_known? (h : r.known? values context = some name) : r.Binds name := by
  unfold known? at h
  split at h
  · next bound hb =>
    cases h
    obtain ⟨key, -, hk⟩ := Option.bind_eq_some_iff.1 hb
    exact ⟨key, hk⟩
  · exact ⟨_, h⟩

lemma nameOf_of_known? (h : r.known? values context = some name) :
    r.nameOf values context = (name, r) := by
  simp [nameOf, h]

/-- A name that is made is bound to its own key. -/
lemma lookup?_nameOf_of_new (new : r.known? values context = none) :
    (r.nameOf values context).2.lookup? (ownKey values context) =
      some (r.nameOf values context).1 := by
  have free : (contextKey? values context).bind r.lookup? = none ∧
      r.lookup? (valueKey values) = none := by
    unfold known? at new
    split at new
    · simp at new
    · next h => exact ⟨h, new⟩
  unfold nameOf ownKey
  simp only [new]
  cases hk : contextKey? values context with
  | none => exact lookup?_register_self free.2
  | some key =>
    rw [hk, Option.bind_some] at free
    exact le_register _ _ (lookup?_register_self free.1)

lemma le_nameOf : r ≤ (r.nameOf values context).2 := by
  unfold nameOf
  split
  · exact le_refl r
  · cases contextKey? values context with
    | none => exact le_register (r := (r.assign _ _).2)
    | some key => exact (le_register (r := (r.assign _ _).2)).trans le_register

/-- The question binds nothing but the answer, and nothing at all if the enumeration is known. -/
lemma lookup?_of_nameOf {k x : String} (h : (r.nameOf values context).2.lookup? k = some x) :
    r.lookup? k = some x ∨ x = (r.nameOf values context).1 ∧ r.known? values context = none := by
  unfold nameOf at h ⊢
  split at h
  · exact .inl h
  · next hn =>
    cases hk : contextKey? values context with
    | none =>
      rw [hk] at h
      rcases lookup?_of_register h with h | rfl
      · exact .inl h
      · exact .inr ⟨rfl, hn⟩
    | some key =>
      rw [hk] at h
      rcases lookup?_of_register h with h | rfl
      · rcases lookup?_of_register h with h | rfl
        · exact .inl h
        · exact .inr ⟨rfl, hn⟩
      · exact .inr ⟨rfl, hn⟩

/-- After the question the enumeration is known. -/
lemma isSome_known?_nameOf :
    ((r.nameOf values context).2.known? values context).isSome := by
  cases h : r.known? values context with
  | none => rw [known?_of_ownKey (lookup?_nameOf_of_new h)]; rfl
  | some name => rw [nameOf_of_known? h, h]; rfl

/-- The answer is bound. -/
lemma binds_nameOf : (r.nameOf values context).2.Binds (r.nameOf values context).1 := by
  cases h : r.known? values context with
  | none => exact ⟨_, lookup?_nameOf_of_new h⟩
  | some name =>
    rw [nameOf_of_known? h]
    exact binds_of_known? h

end ClientGen.Enumeration.Registry
