import ClientGen.Proofs.Emission.History
import ClientGen.Proofs.Mentions

/-!
# Whose a declaration is

What is declared under the identifier of a schema is the declaration of that schema, unless
something else has the identifier too. Enumerations may share theirs: then they have the same values.
-/

namespace ClientGen.Emission

open Api Enumeration Naming Schema TypeScript

variable {c : Setting} {R : Requests c} {w : Workspace} {r : Registry} {failed : List String}
  {s t x : String}

/-- The schema is an enumeration. -/
def Setting.IsEnumeration (c : Setting) (s : String) : Prop :=
  ∃ values notes, c.description.schema? s = some (.enumeration values notes)

/-- Nothing else has the identifier `x` of the schema `s`, neither another schema nor an enumeration
nor a query, except that enumerations may share it. -/
structure Setting.Unshared (c : Setting) (r : Registry) (others beside : String → Prop)
    (s x : String) : Prop where
  schemas : ∀ t, others t → t ≠ s → c.identifier? r t = some x →
    c.IsEnumeration t ∧ c.IsEnumeration s
  names : r.Binds x → c.IsEnumeration s
  beside : ¬ beside x

lemma Setting.Unshared.imp {others others' beside : String → Prop}
    (h : c.Unshared r others beside s x) (ho : ∀ t, others' t → others t) :
    c.Unshared r others' beside s x :=
  ⟨fun t ht => h.schemas t (ho t ht), h.names, h.beside⟩

/-- No two schemas that are no enumerations have the same identifier, and none of them, nor a query,
is called as an enumeration or as a query is. -/
structure Setting.IdentifiersApart (c : Setting) (beside : String → Prop) : Prop where
  schemas : ∀ s t n m, c.description.schema? s = some n → c.description.schema? t = some m →
    n.isEnumeration = false → m.isEnumeration = false → t ≠ s → typeIdentifier t ≠ typeIdentifier s
  names : ∀ s n, c.description.schema? s = some n → n.isEnumeration = false →
    isEnumName (typeIdentifier s) = false
  queries : ∀ s n, c.description.schema? s = some n → n.isEnumeration = false →
    ¬ beside (typeIdentifier s)
  beside : ∀ x, beside x → isEnumName x = false

lemma Setting.isEnumeration_or {n : SchemaNode} (known : c.description.schema? s = some n) :
    c.IsEnumeration s ∨ n.isEnumeration = false := by
  cases n with
  | enumeration values notes => exact .inl ⟨values, notes, known⟩
  | _ => exact .inr rfl

lemma exists_schema_of_identifier? (hx : c.identifier? r s = some x) :
    ∃ n, c.description.schema? s = some n := by
  unfold Setting.identifier? at hx
  split at hx
  · next h => exact ⟨_, h⟩
  · next h => exact ⟨_, h⟩
  · cases hx

/-- Then no schema shares its identifier. -/
lemma Setting.IdentifiersApart.unshared {others beside : String → Prop}
    (h : c.IdentifiersApart beside) (named : r.WellNamed) (hx : c.identifier? r s = some x) :
    c.Unshared r others beside s x := by
  have bound {t y : String} (ht : c.IsEnumeration t) (hy : c.identifier? r t = some y) :
      isEnumName y = true := by
    obtain ⟨values, notes, known⟩ := ht
    rw [identifier?_enumeration known] at hy
    exact named y ⟨_, hy⟩
  obtain ⟨n, known⟩ := exists_schema_of_identifier? hx
  rcases c.isEnumeration_or known with hs | plain
  · refine ⟨fun t _ _ hy => ⟨?_, hs⟩, fun _ => hs, fun hb => ?_⟩
    · obtain ⟨m, known'⟩ := exists_schema_of_identifier? hy
      refine (c.isEnumeration_or known').resolve_right fun plain' => ?_
      obtain rfl := Option.some.inj ((identifier?_of_ne_enumeration known' plain').symm.trans hy)
      have := bound hs hx
      rw [h.names t m known' plain'] at this
      cases this
    · have := bound hs hx
      rw [h.beside x hb] at this
      cases this
  · obtain rfl := Option.some.inj ((identifier?_of_ne_enumeration known plain).symm.trans hx)
    have unlike : isEnumName (typeIdentifier s) ≠ true := by
      rw [h.names s n known plain]
      exact Bool.false_ne_true
    refine ⟨fun t _ ne hy => ?_, fun hb => absurd (named _ hb) unlike, h.queries s n known plain⟩
    obtain ⟨m, known'⟩ := exists_schema_of_identifier? hy
    rcases c.isEnumeration_or known' with ht | plain'
    · exact absurd (bound ht hy) unlike
    · have := (identifier?_of_ne_enumeration known' plain').symm.trans hy
      exact absurd (Option.some.inj this) (h.schemas s t n m known known' plain plain' ne)

/-- An enumeration that is asked for has the name `x` and these values. -/
def EnumerationNamed (R : Requests c) (r : Registry) (x : String) (values : List String) : Prop :=
  ∃ q, R.asks q ∧ q.Named r x ∧ q.values = values

/-- A schema that is an enumeration is asked for by its name. -/
lemma enumerationNamed_of_schema {values : List String} {notes : Notes}
    (known : c.description.schema? s = some (.enumeration values notes))
    (hx : c.identifier? r s = some x) : EnumerationNamed R r x values := by
  rw [identifier?_enumeration known] at hx
  exact ⟨.schema values s, R.schema known, ⟨_, Question.mem_keys_of_schemaKey? rfl, hx⟩, rfl⟩

lemma binds_of_enumerationNamed {values : List String} (h : EnumerationNamed R r x values) :
    r.Binds x := by
  obtain ⟨q, -, ⟨key, -, hx⟩, -⟩ := h
  exact ⟨key, hx⟩

/-- What a type declaration is under the identifier `x` of the schema `s`. -/
structure OwnType (R : Requests c) (r : Registry) (failed : List String) (s x : String)
    (d : TypeDeclaration) : Prop where
  plain : ¬ c.IsEnumeration s → DeclaresType c r failed s d
  enumeration : c.IsEnumeration s → ∃ values description,
    d = .enumeration x values description ∧ EnumerationNamed R r x values

/-- What a validator declaration is under the identifier `x` of the schema `s`. -/
structure OwnValidator (R : Requests c) (r : Registry) (failed : List String) (s x : String)
    (d : ValidatorDeclaration) : Prop where
  plain : ¬ c.IsEnumeration s → DeclaresValidator c r failed s d
  enumeration : c.IsEnumeration s → ∃ values,
    d = .enumeration (validatorName x) values ∧ EnumerationNamed R r x values

lemma DeclaresType.own {d : TypeDeclaration} (h : DeclaresType c r failed s d) :
    OwnType R r failed s d.name d := by
  refine ⟨fun _ => h, fun ⟨values, notes, hs⟩ => ?_⟩
  have hx := h.name
  obtain ⟨node, x, known, -, hd⟩ := h
  obtain rfl := Option.some.inj (known.symm.trans hs)
  rw [hd] at hx
  exact ⟨values, _, by rw [hd]; rfl, by rw [hd]; exact enumerationNamed_of_schema known hx⟩

lemma DeclaresValidator.own {d : ValidatorDeclaration} (h : DeclaresValidator c r failed s d)
    (name : d.name = validatorName x) : OwnValidator R r failed s x d := by
  refine ⟨fun _ => h, fun ⟨values, notes, hs⟩ => ?_⟩
  obtain ⟨y, hx, hy⟩ := h.name
  obtain rfl := validatorName_injective (name.symm.trans hy)
  obtain ⟨node, x', known, hx', hd⟩ := h
  obtain rfl := Option.some.inj (known.symm.trans hs)
  obtain rfl := Option.some.inj (hx.symm.trans hx')
  exact ⟨values, hd, enumerationNamed_of_schema known hx⟩

/-- Under an identifier that is not shared stands the declaration of the schema. -/
lemma Recorded.ownType (h : Recorded R w)
    (unshared : c.Unshared w.registry (· ∈ w.types.processed) R.beside s x)
    {d : Written TypeDeclaration} (hd : d ∈ w.types.declarations) (name : d.declaration.name = x) :
    OwnType R w.registry w.types.failed s x d.declaration := by
  have enumeration {values : List String} {description : Option String}
      (named : EnumerationNamed R w.registry x values)
      (eq : d.declaration = .enumeration x values description) :
      OwnType R w.registry w.types.failed s x d.declaration :=
    ⟨fun plain => absurd (unshared.names (binds_of_enumerationNamed named)) plain,
      fun _ => ⟨values, description, eq, named⟩⟩
  have wanted := h.types d hd
  generalize d.declaration = e at wanted name enumeration
  cases wanted with
  | schema begun hd =>
    next t =>
    by_cases same : t = s
    · rw [← same, ← name]
      exact hd.own
    · obtain ⟨ht, -⟩ := unshared.schemas t begun same (name ▸ hd.name)
      obtain ⟨values, description, eq, named⟩ := (hd.own (R := R)).enumeration ht
      rw [name] at eq named
      exact enumeration named eq
  | enumeration asks named =>
    obtain rfl : _ = x := name
    exact enumeration ⟨_, asks, named, rfl⟩ rfl
  | query beside =>
    obtain rfl : _ = x := name
    exact absurd beside unshared.beside

/-- Under a constant that is not shared stands the validator of the schema. -/
lemma Recorded.ownValidator (h : Recorded R w)
    (unshared : c.Unshared w.registry (· ∈ w.validators.processed) R.beside s x)
    {d : Written ValidatorDeclaration} (hd : d ∈ w.validators.declarations)
    (name : d.declaration.name = validatorName x) :
    OwnValidator R w.registry w.validators.failed s x d.declaration := by
  have enumeration {values : List String} (named : EnumerationNamed R w.registry x values)
      (eq : d.declaration = .enumeration (validatorName x) values) :
      OwnValidator R w.registry w.validators.failed s x d.declaration :=
    ⟨fun plain => absurd (unshared.names (binds_of_enumerationNamed named)) plain,
      fun _ => ⟨values, eq, named⟩⟩
  have wanted := h.validators d hd
  generalize d.declaration = e at wanted name enumeration
  cases wanted with
  | schema begun hd =>
    next t =>
    by_cases same : t = s
    · rw [← same]
      exact hd.own name
    · obtain ⟨y, hy, hn⟩ := hd.name
      obtain rfl := validatorName_injective (name.symm.trans hn)
      obtain ⟨ht, -⟩ := unshared.schemas t begun same hy
      obtain ⟨values, eq, named⟩ := (hd.own (R := R) name).enumeration ht
      exact enumeration named eq
  | enumeration asks named =>
    obtain rfl := validatorName_injective name
    exact enumeration ⟨_, asks, named, rfl⟩ rfl
  | query beside =>
    obtain rfl := validatorName_injective name
    exact absurd beside unshared.beside

end ClientGen.Emission
