import ClientGen.Proofs.Emission.Contract
import ClientGen.Proofs.Mentions
import ClientGen.Proofs.Schema.Contents

/-!
# Validators of nested schemas

The validator of a schema keeps every contract that its references and its enumerations keep, and
refers to nothing but what their validators refer to. If the schema is not nested too deep, each of
its enumerations has been asked for.
-/

namespace ClientGen.Emission

open ClientGen.Schema ClientGen.TypeScript

/-- What is known of everything that a validator refers to, and of every enumeration that has been
asked for. It holds on in later workspaces. -/
structure Knowledge (K : Contract) where
  eager : Option String → String → Workspace → Prop
  deferred : String → Workspace → Prop
  asked : Option String × List String → Workspace → Prop
  eager_stable : ∀ {q k u v}, K.grows u v → eager q k u → eager q k v
  deferred_stable : ∀ {k u v}, K.grows u v → deferred k u → deferred k v
  asked_stable : ∀ {e u v}, K.grows u v → asked e u → asked e v

variable {K : Contract} {N : Knowledge K} {c : Setting} {references : ReferenceValidators}
  {parent : String} {w : Workspace}

/-- The validator refers to what is known only. -/
def Knowledge.Covers (N : Knowledge K) (v : Validator) (w : Workspace) : Prop :=
  v.MentionsOnly (N.eager · · w) (N.deferred · w)

lemma Knowledge.Covers.grows {v : Validator} {w' : Workspace} (h : N.Covers v w)
    (hg : K.grows w w') : N.Covers v w' :=
  ⟨fun q k hm => N.eager_stable hg (h.1 q k hm), fun k hm => N.deferred_stable hg (h.2 k hm)⟩

/-- Each of some enumerations has been asked for, if `levels` more are not too deep. -/
def Knowledge.AskedFor (N : Knowledge K) (c : Setting) (depth : Int) (levels : Nat)
    (es : List (Option String × List String)) (w : Workspace) : Prop :=
  depth + levels ≤ c.maxDepth → ∀ e ∈ es, N.asked e w

lemma Knowledge.askedFor_nil {depth : Int} {levels : Nat} : N.AskedFor c depth levels [] w :=
  fun _ _ h => by simp at h

/-- What each reference inside a schema keeps from `w` on. -/
def Knowledge.References (N : Knowledge K) (references : ReferenceValidators)
    (pointers : List String) (w : Workspace) : Prop :=
  ∀ pointer ∈ pointers, ∀ notes w', K.grows w w' → K.Keeps (references pointer notes) w' N.Covers

/-- What each enumeration inside a schema keeps from `w` on. -/
def Knowledge.Enumerations (N : Knowledge K) (c : Setting) (parent : String)
    (es : List (Option String × List String)) (w : Workspace) : Prop :=
  ∀ e ∈ es, ∀ w', K.grows w w' →
    K.Keeps (enumValidator c parent e.1 e.2) w' fun v w'' => N.Covers v w'' ∧ N.asked e w''

lemma Knowledge.References.grows {ps qs : List String} {w' : Workspace}
    (h : N.References references ps w) (hs : qs ⊆ ps) (hg : K.grows w w') :
    N.References references qs w' :=
  fun p hp notes w'' hg' => h p (hs hp) notes w'' (K.grows_trans hg hg')

lemma Knowledge.Enumerations.grows {es fs : List (Option String × List String)} {w' : Workspace}
    (h : N.Enumerations c parent es w) (hs : fs ⊆ es) (hg : K.grows w w') :
    N.Enumerations c parent fs w' :=
  fun e he w'' hg' => h e (hs he) w'' (K.grows_trans hg hg')

lemma nestedValidator_keeps {depth : Int} {levels : Nat} {es : List (Option String × List String)}
    {nullable : Bool} {validator : Emit Validator}
    (h : K.Keeps validator w fun v w' => N.Covers v w' ∧ N.AskedFor c depth levels es w') :
    K.Keeps (nestedValidator c parent depth nullable validator) w fun v w' =>
      N.Covers v w' ∧ N.AskedFor c depth levels es w' := by
  refine .ite (fun deep => ?_) fun _ => ?_
  · refine .bind (.note (T := fun _ _ => True) fun _ _ => trivial) fun _ _ _ _ => ?_
    refine .pure fun _ => ⟨Validator.mentionsOnly_any, fun fits => ?_⟩
    omega
  · refine h.bind fun v w' _ hv => .pure fun _ => ⟨?_, hv.2⟩
    split
    · exact hv.1.withNull
    · exact hv.1

/-- A validator that makes checks itself is written, or an integer is too long. -/
lemma writable_keeps {v : Validator} {es : List (Option String × List String)}
    {depth : Int} {levels : Nat}
    (long : v.checks.any Check.hasLongInteger = true → ∀ f, K.permits (.digits f))
    (hv : N.Covers v w) (he : N.AskedFor c depth levels es w) :
    K.Keeps (orDigitsFault v.writable) w fun v w' =>
      N.Covers v w' ∧ N.AskedFor c depth levels es w' := by
  refine .orDigitsFault (fun v' h => ?_) fun f h => long (any_hasLongInteger_of_writable h) f
  rw [eq_of_writable h]
  exact ⟨hv, he⟩

lemma covers_oneOfValidator {vs : List Validator} (h : ∀ v ∈ vs, N.Covers v w) :
    N.Covers (oneOfValidator vs) w := by
  unfold oneOfValidator
  split
  · exact h _ (by simp)
  · exact Validator.mentionsOnly_union.2 h

lemma covers_allOfValidator {vs : List Validator} (h : ∀ v ∈ vs, N.Covers v w) :
    N.Covers (allOfValidator vs) w := by
  unfold allOfValidator
  split
  · exact Validator.mentionsOnly_any
  · exact h _ (by simp)
  · exact Validator.mentionsOnly_both.2 (Validator.mentionsOnly_union.2 h)

/-- What is asked for one level down is asked for here. -/
lemma Knowledge.AskedFor.up {depth : Int} {levels : Nat} {es : List (Option String × List String)}
    (h : N.AskedFor c (depth + 1) levels es w) : N.AskedFor c depth (levels + 1) es w :=
  fun fits => h (by push_cast at fits; omega)

lemma Knowledge.AskedFor.append {depth : Int} {m n : Nat}
    {es fs : List (Option String × List String)} (he : N.AskedFor c depth m es w)
    (hf : N.AskedFor c depth n fs w) : N.AskedFor c depth (max m n) (es ++ fs) w := by
  intro fits e h
  have fits' : depth + m ≤ c.maxDepth ∧ depth + n ≤ c.maxDepth := by omega
  rcases List.mem_append.1 h with h | h
  · exact he fits'.1 e h
  · exact hf fits'.2 e h

lemma Knowledge.AskedFor.grows {depth : Int} {levels : Nat}
    {es : List (Option String × List String)} {w' : Workspace} (h : N.AskedFor c depth levels es w)
    (hg : K.grows w w') : N.AskedFor c depth levels es w' :=
  fun fits e he => N.asked_stable hg (h fits e he)

mutual

lemma validatorAt_keeps :
    ∀ (property : Option String) (depth : Int) (s : SchemaNode) (w : Workspace),
      N.References references s.pointers w →
      N.Enumerations c parent (s.enumerations property) w →
      (s.hasLongInteger = true → ∀ f, K.permits (.digits f)) →
      K.Keeps (validatorAt c references parent property depth s) w fun v w' =>
        N.Covers v w' ∧ N.AskedFor c depth s.nesting (s.enumerations property) w'
  | property, depth, .primitive kind constraints _, w, _, _, long => by
    rw [validatorAt]
    exact nestedValidator_keeps (writable_keeps long Validator.mentionsOnly_scalar
      Knowledge.askedFor_nil)
  | property, depth, .enumeration values notes, w, _, he, _ => by
    rw [validatorAt]
    refine nestedValidator_keeps ((he (property, values) (by simp [SchemaNode.enumerations]) w
      (K.grows_refl w)).weaken fun v w' _ _ hv => ⟨hv.1, fun _ e h => ?_⟩)
    rw [SchemaNode.enumerations, List.mem_singleton] at h
    rw [h]
    exact hv.2
  | property, depth, .array items constraints notes, w, hr, he, long => by
    rw [validatorAt]
    rw [SchemaNode.hasLongInteger] at long
    refine nestedValidator_keeps ((validatorAt_keeps none (depth + 1) items w hr he
      fun h => long (by simp [h])).bind fun v w' _ hv => ?_)
    exact writable_keeps (fun h => long (Bool.or_eq_true_iff.2 (.inr h)))
      hv.1.array hv.2.up
  | property, depth, .object [] none _, w, _, _, _ => by
    rw [validatorAt]
    exact nestedValidator_keeps (.pure fun _ => ⟨Validator.mentionsOnly_any.record,
      Knowledge.askedFor_nil⟩)
  | property, depth, .object [] (some value) _, w, hr, he, long => by
    rw [validatorAt]
    exact nestedValidator_keeps (.map ((validatorAt_keeps none (depth + 1) value w hr he
      long).weaken fun v w' _ _ hv => ⟨hv.1.record, hv.2.up⟩))
  | property, depth, .object (p :: ps) additional _, w, hr, he, long => by
    rw [validatorAt]
    · exact nestedValidator_keeps (.map ((fieldsAt_keeps (depth + 1) (p :: ps) w
        (hr.grows (List.subset_append_left _ _) (K.grows_refl w)) he long).weaken
        fun fs w' _ _ hf => ⟨Validator.mentionsOnly_object.2 hf.1, hf.2.up⟩))
    all_goals simp
  | property, depth, .reference pointer notes, w, hr, _, _ => by
    rw [validatorAt]
    exact nestedValidator_keeps ((hr pointer (by simp [SchemaNode.pointers]) notes w
      (K.grows_refl w)).weaken fun v w' _ _ hv => ⟨hv, Knowledge.askedFor_nil⟩)
  | property, depth, .allOf members _, w, hr, he, long => by
    rw [validatorAt]
    exact nestedValidator_keeps (.map ((validatorsAt_keeps property (depth + 1) members w hr he
      long).weaken fun vs w' _ _ hv => ⟨covers_allOfValidator hv.1, hv.2.up⟩))
  | property, depth, .oneOf variants _, w, hr, he, long => by
    rw [validatorAt]
    exact nestedValidator_keeps (.map ((validatorsAt_keeps property (depth + 1) variants w hr he
      long).weaken fun vs w' _ _ hv => ⟨covers_oneOfValidator hv.1, hv.2.up⟩))
  | property, depth, .anyOf variants _, w, hr, he, long => by
    rw [validatorAt]
    exact nestedValidator_keeps (.map ((validatorsAt_keeps property (depth + 1) variants w hr he
      long).weaken fun vs w' _ _ hv => ⟨covers_oneOfValidator hv.1, hv.2.up⟩))
  | property, depth, .unknown _, w, _, _, _ => by
    rw [validatorAt]
    exact nestedValidator_keeps (.pure fun _ => ⟨Validator.mentionsOnly_any,
      Knowledge.askedFor_nil⟩)

lemma validatorsAt_keeps :
    ∀ (property : Option String) (depth : Int) (ss : List SchemaNode) (w : Workspace),
      N.References references (SchemaNode.pointersAll ss) w →
      N.Enumerations c parent (SchemaNode.enumerationsAll property ss) w →
      (SchemaNode.haveLongInteger ss = true → ∀ f, K.permits (.digits f)) →
      K.Keeps (validatorsAt c references parent property depth ss) w fun vs w' =>
        (∀ v ∈ vs, N.Covers v w') ∧
          N.AskedFor c depth (SchemaNode.nestingAll ss)
            (SchemaNode.enumerationsAll property ss) w'
  | property, depth, [], w, _, _, _ => by
    rw [validatorsAt]
    exact .pure fun _ => ⟨by simp, Knowledge.askedFor_nil⟩
  | property, depth, s :: rest, w, hr, he, long => by
    rw [validatorsAt]
    rw [SchemaNode.haveLongInteger] at long
    refine (validatorAt_keeps property depth s w
      (hr.grows (List.subset_append_left _ _) (K.grows_refl w))
      (he.grows (List.subset_append_left _ _) (K.grows_refl w))
      fun h => long (by simp [h])).bind fun v w' hg hv => ?_
    refine (validatorsAt_keeps property depth rest w'
      (hr.grows (List.subset_append_right _ _) hg) (he.grows (List.subset_append_right _ _) hg)
      fun h => long (by simp [h])).bind fun vs w'' hg' hvs => .pure fun _ => ?_
    exact ⟨List.forall_mem_cons.2 ⟨hv.1.grows hg', hvs.1⟩, (hv.2.grows hg').append hvs.2⟩

lemma fieldsAt_keeps :
    ∀ (depth : Int) (ps : List Property) (w : Workspace),
      N.References references (Property.pointersAll ps) w →
      N.Enumerations c parent (Property.enumerations ps) w →
      (Property.haveLongInteger ps = true → ∀ f, K.permits (.digits f)) →
      K.Keeps (fieldsAt c references parent depth ps) w fun fs w' =>
        (∀ f ∈ fs, N.Covers f.validator w') ∧
          N.AskedFor c depth (Property.nesting ps) (Property.enumerations ps) w'
  | depth, [], w, _, _, _ => by
    rw [fieldsAt]
    exact .pure fun _ => ⟨by simp, Knowledge.askedFor_nil⟩
  | depth, ⟨name, required, s⟩ :: rest, w, hr, he, long => by
    rw [fieldsAt]
    rw [Property.haveLongInteger] at long
    refine (validatorAt_keeps (some name) depth s w
      (hr.grows (List.subset_append_left _ _) (K.grows_refl w))
      (he.grows (List.subset_append_left _ _) (K.grows_refl w))
      fun h => long (by simp [h])).bind fun v w' hg hv => ?_
    refine (fieldsAt_keeps depth rest w'
      (hr.grows (List.subset_append_right _ _) hg) (he.grows (List.subset_append_right _ _) hg)
      fun h => long (by simp [h])).bind fun fs w'' hg' hfs => .pure fun _ => ?_
    exact ⟨List.forall_mem_cons.2 ⟨hv.1.grows hg', hfs.1⟩, (hv.2.grows hg').append hfs.2⟩

end

end ClientGen.Emission
