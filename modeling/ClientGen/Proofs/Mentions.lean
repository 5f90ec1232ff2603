import ClientGen.TypeScript.Declaration
import Mathlib.Tactic.Common

/-!
# What declarations mention

The declared names that a type or a validator refers to, each with the namespace it goes through. A
part that is given by its text may refer to anything, so that whoever knows all that is mentioned
knows that there is no such part.
-/

namespace ClientGen.TypeScript

variable {q : Option String} {x n : String}

/-! ### Types -/

mutual

/-- The type refers to the declaration `x` through the namespace `q`. -/
def TypeExpr.Mentions (q : Option String) (x : String) : TypeExpr → Prop
  | .named n name => n = q ∧ name = x
  | .array item => item.Mentions q x
  | .record value => value.Mentions q x
  | .object members => Member.MentionsAny q x members
  | .orNull type => type.Mentions q x
  | .verbatim _ => True
  | .any => False
  | .string => False
  | .number => False
  | .boolean => False
  | .blob => False

/-- A member of an object type refers to the declaration. -/
def Member.MentionsAny (q : Option String) (x : String) : List Member → Prop
  | [] => False
  | ⟨_, _, type⟩ :: rest => type.Mentions q x ∨ Member.MentionsAny q x rest

end

@[simp] lemma TypeExpr.mentions_any : ¬ TypeExpr.any.Mentions q x := by
  simp [TypeExpr.Mentions]

@[simp] lemma TypeExpr.mentions_named {name : String} :
    (TypeExpr.named (some n) name).Mentions q x ↔ some n = q ∧ name = x := by
  simp [TypeExpr.Mentions]

lemma TypeExpr.mentions_withNull {t : TypeExpr} : t.withNull.Mentions q x ↔ t.Mentions q x := by
  unfold TypeExpr.withNull
  split
  · rfl
  · simp [TypeExpr.Mentions]

mutual

/-- A namespace that is mentioned is one that the type goes through, unless the type may mention
anything. -/
lemma TypeExpr.mem_namespaces_of_mentions :
    ∀ t : TypeExpr, t.Mentions (some n) x → n ∈ t.namespaces ∨ ∀ q y, t.Mentions q y
  | .named m name, h => by
    simp only [TypeExpr.Mentions] at h
    simp [TypeExpr.namespaces, h.1]
  | .array item, h => by
    simp only [TypeExpr.Mentions, TypeExpr.namespaces] at h ⊢
    exact item.mem_namespaces_of_mentions h
  | .record value, h => by
    simp only [TypeExpr.Mentions, TypeExpr.namespaces] at h ⊢
    exact value.mem_namespaces_of_mentions h
  | .object members, h => by
    simp only [TypeExpr.Mentions, TypeExpr.namespaces] at h ⊢
    exact Member.mem_namespaces_of_mentionsAny members h
  | .orNull type, h => by
    simp only [TypeExpr.Mentions, TypeExpr.namespaces] at h ⊢
    exact type.mem_namespaces_of_mentions h
  | .verbatim _, _ => by simp [TypeExpr.Mentions]
  | .any, h => by simp [TypeExpr.Mentions] at h
  | .string, h => by simp [TypeExpr.Mentions] at h
  | .number, h => by simp [TypeExpr.Mentions] at h
  | .boolean, h => by simp [TypeExpr.Mentions] at h
  | .blob, h => by simp [TypeExpr.Mentions] at h

lemma Member.mem_namespaces_of_mentionsAny :
    ∀ ms : List Member, Member.MentionsAny (some n) x ms →
      n ∈ Member.namespacesAll ms ∨ ∀ q y, Member.MentionsAny q y ms
  | [], h => by simp [Member.MentionsAny] at h
  | ⟨_, _, type⟩ :: rest, h => by
    simp only [Member.MentionsAny, Member.namespacesAll, List.mem_append] at h ⊢
    rcases h with h | h
    · rcases type.mem_namespaces_of_mentions h with h | h
      · exact .inl (.inl h)
      · exact .inr fun q y => .inl (h q y)
    · rcases Member.mem_namespaces_of_mentionsAny rest h with h | h
      · exact .inl (.inr h)
      · exact .inr fun q y => .inr (h q y)

end

/-- All that a type mentions is as `P` asks. -/
def TypeExpr.MentionsOnly (P : Option String → String → Prop) (t : TypeExpr) : Prop :=
  ∀ q x, t.Mentions q x → P q x

section MentionsOnly

variable {P : Option String → String → Prop} {t : TypeExpr}

lemma TypeExpr.mentionsOnly_any : TypeExpr.any.MentionsOnly P := by
  intro q x hm
  simp at hm

lemma TypeExpr.mentionsOnly_named {name : String} (h : P q name) :
    (TypeExpr.named q name).MentionsOnly P := by
  intro q' x hm
  rw [TypeExpr.Mentions] at hm
  obtain ⟨rfl, rfl⟩ := hm
  exact h

lemma TypeExpr.MentionsOnly.array (h : t.MentionsOnly P) : (TypeExpr.array t).MentionsOnly P := by
  intro q x hm
  rw [TypeExpr.Mentions] at hm
  exact h q x hm

lemma TypeExpr.MentionsOnly.record (h : t.MentionsOnly P) :
    (TypeExpr.record t).MentionsOnly P := by
  intro q x hm
  rw [TypeExpr.Mentions] at hm
  exact h q x hm

lemma TypeExpr.MentionsOnly.orNull (h : t.MentionsOnly P) :
    (TypeExpr.orNull t).MentionsOnly P := by
  intro q x hm
  rw [TypeExpr.Mentions] at hm
  exact h q x hm

lemma TypeExpr.mentionsOnly_object_nil : (TypeExpr.object []).MentionsOnly P := by
  intro q x hm
  simp [TypeExpr.Mentions, Member.MentionsAny] at hm

lemma TypeExpr.MentionsOnly.object_cons {key : String} {optional : Bool} {ms : List Member}
    (h : t.MentionsOnly P) (hms : (TypeExpr.object ms).MentionsOnly P) :
    (TypeExpr.object (⟨key, optional, t⟩ :: ms)).MentionsOnly P := by
  intro q x hm
  simp only [TypeExpr.Mentions, Member.MentionsAny] at hm
  rcases hm with hm | hm
  · exact h q x hm
  · exact hms q x (by rwa [TypeExpr.Mentions])

lemma TypeExpr.MentionsOnly.imp {P' : Option String → String → Prop} (h : t.MentionsOnly P)
    (hP : ∀ q x, P q x → P' q x) : t.MentionsOnly P' :=
  fun q x hm => hP q x (h q x hm)

lemma TypeExpr.MentionsOnly.withNull (h : t.MentionsOnly P) : t.withNull.MentionsOnly P :=
  fun q x hm => h q x (TypeExpr.mentions_withNull.1 hm)

end MentionsOnly

/-- The declaration refers to the declaration `x` through the namespace `q`. -/
def TypeDeclaration.Mentions (q : Option String) (x : String) : TypeDeclaration → Prop
  | .interface_ _ fields _ => ∃ f ∈ fields, f.type.Mentions q x
  | .enumeration _ _ _ => False
  | .alias _ type _ => type.Mentions q x

/-- Whether a declaration is that of an enumeration. -/
def TypeDeclaration.isEnumeration : TypeDeclaration → Bool
  | .enumeration _ _ _ => true
  | _ => false

/-! ### Validators -/

mutual

/-- The validator refers to the constant `k` through the namespace `q` as soon as it is made. -/
def Validator.Mentions (q : Option String) (k : String) : Validator → Prop
  | .named n const => n = q ∧ const = k
  | .array item _ => item.Mentions q k
  | .record value => value.Mentions q k
  | .object _ fields => Field.MentionsAny q k fields
  | .both first others => first.Mentions q k ∨ Validator.MentionsAny q k others
  | .union variants => Validator.MentionsAny q k variants
  | .orNull v => v.Mentions q k
  | .verbatim _ => True
  | .deferred _ => False
  | .any => False
  | .string _ => False
  | .number _ => False
  | .integer _ => False
  | .boolean => False
  | .blob => False

/-- One of some validators refers to the constant. -/
def Validator.MentionsAny (q : Option String) (k : String) : List Validator → Prop
  | [] => False
  | v :: rest => v.Mentions q k ∨ Validator.MentionsAny q k rest

/-- A field of an object refers to the constant. -/
def Field.MentionsAny (q : Option String) (k : String) : List Field → Prop
  | [] => False
  | ⟨_, _, v⟩ :: rest => v.Mentions q k ∨ Field.MentionsAny q k rest

end

mutual

/-- Whether a validator refers to a constant as soon as it is made. -/
def Validator.decidableMentions (q : Option String) (k : String) :
    (v : Validator) → Decidable (v.Mentions q k)
  | .named n const => inferInstanceAs (Decidable (n = q ∧ const = k))
  | .array item _ => item.decidableMentions q k
  | .record value => value.decidableMentions q k
  | .object _ fields => Field.decidableMentionsAny q k fields
  | .both first others =>
    have := first.decidableMentions q k
    have := Validator.decidableMentionsAny q k others
    inferInstanceAs (Decidable (first.Mentions q k ∨ Validator.MentionsAny q k others))
  | .union variants => Validator.decidableMentionsAny q k variants
  | .orNull v => v.decidableMentions q k
  | .verbatim _ => .isTrue trivial
  | .deferred _ => .isFalse id
  | .any => .isFalse id
  | .string _ => .isFalse id
  | .number _ => .isFalse id
  | .integer _ => .isFalse id
  | .boolean => .isFalse id
  | .blob => .isFalse id

/-- Whether one of some validators does. -/
def Validator.decidableMentionsAny (q : Option String) (k : String) :
    (vs : List Validator) → Decidable (Validator.MentionsAny q k vs)
  | [] => .isFalse id
  | v :: rest =>
    have := v.decidableMentions q k
    have := Validator.decidableMentionsAny q k rest
    inferInstanceAs (Decidable (v.Mentions q k ∨ Validator.MentionsAny q k rest))

/-- Whether one of some fields does. -/
def Field.decidableMentionsAny (q : Option String) (k : String) :
    (fs : List Field) → Decidable (Field.MentionsAny q k fs)
  | [] => .isFalse id
  | ⟨_, _, v⟩ :: rest =>
    have := v.decidableMentions q k
    have := Field.decidableMentionsAny q k rest
    inferInstanceAs (Decidable (v.Mentions q k ∨ Field.MentionsAny q k rest))

end

mutual

/-- The validator refers to the constant `k` of its own file when it is used. -/
def Validator.Defers (k : String) : Validator → Prop
  | .deferred const => const = k
  | .array item _ => item.Defers k
  | .record value => value.Defers k
  | .object _ fields => Field.DefersAny k fields
  | .both first others => first.Defers k ∨ Validator.DefersAny k others
  | .union variants => Validator.DefersAny k variants
  | .orNull v => v.Defers k
  | .verbatim _ => True
  | .named _ _ => False
  | .any => False
  | .string _ => False
  | .number _ => False
  | .integer _ => False
  | .boolean => False
  | .blob => False

/-- One of some validators refers to the constant when it is used. -/
def Validator.DefersAny (k : String) : List Validator → Prop
  | [] => False
  | v :: rest => v.Defers k ∨ Validator.DefersAny k rest

/-- A field of an object refers to the constant when it is used. -/
def Field.DefersAny (k : String) : List Field → Prop
  | [] => False
  | ⟨_, _, v⟩ :: rest => v.Defers k ∨ Field.DefersAny k rest

end

/-- The validator of a field. -/
def Field.validator : Field → Validator
  | ⟨_, _, v⟩ => v

lemma Field.mentionsAny_iff {k : String} {fs : List Field} :
    Field.MentionsAny q k fs ↔ ∃ f ∈ fs, f.validator.Mentions q k := by
  induction fs with
  | nil => simp [Field.MentionsAny]
  | cons f fs ih =>
    obtain ⟨key, optional, v⟩ := f
    rw [Field.MentionsAny, ih]
    simp only [List.mem_cons, exists_eq_or_imp]
    rfl

lemma Field.defersAny_iff {k : String} {fs : List Field} :
    Field.DefersAny k fs ↔ ∃ f ∈ fs, f.validator.Defers k := by
  induction fs with
  | nil => simp [Field.DefersAny]
  | cons f fs ih =>
    obtain ⟨key, optional, v⟩ := f
    rw [Field.DefersAny, ih]
    simp only [List.mem_cons, exists_eq_or_imp]
    rfl

lemma Validator.mentionsAny_iff {k : String} {vs : List Validator} :
    Validator.MentionsAny q k vs ↔ ∃ v ∈ vs, v.Mentions q k := by
  induction vs with
  | nil => simp [Validator.MentionsAny]
  | cons v vs ih => simp [Validator.MentionsAny, ih]

lemma Validator.defersAny_iff {k : String} {vs : List Validator} :
    Validator.DefersAny k vs ↔ ∃ v ∈ vs, v.Defers k := by
  induction vs with
  | nil => simp [Validator.DefersAny]
  | cons v vs ih => simp [Validator.DefersAny, ih]

/-- All that a validator refers to as soon as it is made is as `P` asks, and all that it refers to
when it is used as `D` asks. -/
def Validator.MentionsOnly (P : Option String → String → Prop) (D : String → Prop)
    (v : Validator) : Prop :=
  (∀ q k, v.Mentions q k → P q k) ∧ ∀ k, v.Defers k → D k

section MentionsOnly

variable {P : Option String → String → Prop} {D : String → Prop} {v : Validator} {k : String}

lemma Validator.mentionsOnly_any : Validator.any.MentionsOnly P D :=
  ⟨fun _ _ hm => False.elim hm, fun _ hm => False.elim hm⟩

lemma Validator.mentionsOnly_named (h : P q k) : (Validator.named q k).MentionsOnly P D := by
  refine ⟨fun q' k' hm => ?_, fun _ hm => False.elim hm⟩
  obtain ⟨rfl, rfl⟩ : q = q' ∧ k = k' := hm
  exact h

lemma Validator.mentionsOnly_deferred (h : D k) : (Validator.deferred k).MentionsOnly P D := by
  refine ⟨fun _ _ hm => False.elim hm, fun k' hm => ?_⟩
  obtain rfl : k = k' := hm
  exact h

lemma Validator.mentionsOnly_scalar {kind : Schema.PrimitiveKind} {cs : Schema.Constraints} :
    (scalarValidator kind cs).MentionsOnly P D := by
  unfold scalarValidator
  split
  · split <;> exact ⟨fun _ _ hm => False.elim hm, fun _ hm => False.elim hm⟩
  all_goals exact ⟨fun _ _ hm => False.elim hm, fun _ hm => False.elim hm⟩

lemma Validator.MentionsOnly.array {cs : List Check} (h : v.MentionsOnly P D) :
    (Validator.array v cs).MentionsOnly P D :=
  ⟨fun q k hm => h.1 q k hm, fun k hm => h.2 k hm⟩

lemma Validator.MentionsOnly.record (h : v.MentionsOnly P D) :
    (Validator.record v).MentionsOnly P D :=
  ⟨fun q k hm => h.1 q k hm, fun k hm => h.2 k hm⟩

lemma Validator.MentionsOnly.orNull (h : v.MentionsOnly P D) :
    (Validator.orNull v).MentionsOnly P D :=
  ⟨fun q k hm => h.1 q k hm, fun k hm => h.2 k hm⟩

lemma Validator.MentionsOnly.withNull (h : v.MentionsOnly P D) :
    v.withNull.MentionsOnly P D := by
  unfold Validator.withNull
  split
  · exact h
  · exact h.orNull

lemma Validator.mentionsOnly_object {level : Int} {fs : List Field} :
    (Validator.object level fs).MentionsOnly P D ↔
      ∀ f ∈ fs, f.validator.MentionsOnly P D := by
  refine ⟨fun h f hf => ⟨fun q k hm => h.1 q k (Field.mentionsAny_iff.2 ⟨f, hf, hm⟩),
    fun k hm => h.2 k (Field.defersAny_iff.2 ⟨f, hf, hm⟩)⟩, fun h => ⟨fun q k hm => ?_,
    fun k hm => ?_⟩⟩
  · obtain ⟨f, hf, hm⟩ := Field.mentionsAny_iff.1 hm
    exact (h f hf).1 q k hm
  · obtain ⟨f, hf, hm⟩ := Field.defersAny_iff.1 hm
    exact (h f hf).2 k hm

lemma Validator.mentionsOnly_union {vs : List Validator} :
    (Validator.union vs).MentionsOnly P D ↔ ∀ v ∈ vs, v.MentionsOnly P D := by
  refine ⟨fun h v hv => ⟨fun q k hm => h.1 q k (Validator.mentionsAny_iff.2 ⟨v, hv, hm⟩),
    fun k hm => h.2 k (Validator.defersAny_iff.2 ⟨v, hv, hm⟩)⟩, fun h => ⟨fun q k hm => ?_,
    fun k hm => ?_⟩⟩
  · obtain ⟨v, hv, hm⟩ := Validator.mentionsAny_iff.1 hm
    exact (h v hv).1 q k hm
  · obtain ⟨v, hv, hm⟩ := Validator.defersAny_iff.1 hm
    exact (h v hv).2 k hm

lemma Validator.mentionsOnly_both {v : Validator} {vs : List Validator} :
    (Validator.both v vs).MentionsOnly P D ↔ (Validator.union (v :: vs)).MentionsOnly P D :=
  Iff.rfl

end MentionsOnly

/-- The declaration refers to the constant `k` through the namespace `q` where it stands. -/
def ValidatorDeclaration.Mentions (q : Option String) (k : String) : ValidatorDeclaration → Prop
  | .schema _ value _ _ => value.Mentions q k
  | .enumeration _ _ => False

instance (q : Option String) (k : String) :
    (d : ValidatorDeclaration) → Decidable (d.Mentions q k)
  | .schema _ value _ _ => value.decidableMentions q k
  | .enumeration _ _ => .isFalse id

/-- The declaration refers to the constant `k` of its own file when it is used. -/
def ValidatorDeclaration.Defers (k : String) : ValidatorDeclaration → Prop
  | .schema _ value _ _ => value.Defers k
  | .enumeration _ _ => False

lemma validatorName_injective : Function.Injective validatorName := by
  intro a b h
  have h' := congrArg String.toList h
  simp only [validatorName, String.toList_append] at h'
  exact String.toList_inj.1 (List.append_cancel_right h')

end ClientGen.TypeScript
