import ClientGen.Emission.Types
import ClientGen.Proofs.Emission.Contract
import ClientGen.Proofs.Mentions
import ClientGen.Proofs.Schema.Contents

/-!
# Types of nested schemas

The type of a schema keeps every contract that its references and its enumerations keep, and
mentions nothing but what their types mention.
-/

namespace ClientGen.Emission

open ClientGen.Schema ClientGen.TypeScript

variable {K : Contract} {P : Option String → String → Workspace → Prop} {c : Setting}
  {namespace_ : Option String} {references : ReferenceTypes} {parent : String}

lemma nestedType_keeps {depth : Int} {nullable : Bool} {type : Emit TypeExpr} {w : Workspace}
    (h : K.Keeps type w fun t w' => t.MentionsOnly (P · · w')) :
    K.Keeps (nestedType c parent depth nullable type) w fun t w' => t.MentionsOnly (P · · w') := by
  refine .ite (fun _ => ?_) fun _ => ?_
  · refine .bind (.note (T := fun _ _ => True) fun _ _ => trivial) fun _ _ _ _ => ?_
    exact .pure fun _ => TypeExpr.mentionsOnly_any
  · refine h.bind fun t w' _ ht => .pure fun _ => ?_
    split
    · exact ht.withNull
    · exact ht

lemma mentionsOnly_scalarType {kind : PrimitiveKind} {cs : Constraints}
    {P : Option String → String → Prop} : (scalarType kind cs).MentionsOnly P := by
  intro q x h
  unfold scalarType at h
  split at h
  · split at h <;> simp [TypeExpr.Mentions] at h
  all_goals simp [TypeExpr.Mentions] at h

mutual

lemma typeAt_keeps (stable : ∀ q x u v, K.grows u v → P q x u → P q x v) :
    ∀ (property : Option String) (depth : Int) (s : SchemaNode) (w : Workspace),
      (∀ pointer ∈ s.pointers, ∀ notes w', K.grows w w' →
        K.Keeps (references pointer notes) w' fun t w'' => t.MentionsOnly (P · · w'')) →
      (∀ e ∈ s.typeEnumerations property, ∀ w', K.grows w w' →
        K.Keeps (enumType c namespace_ parent e.1 e.2) w' fun t w'' =>
          t.MentionsOnly (P · · w'')) →
      K.Keeps (typeAt c namespace_ references parent property depth s) w fun t w' =>
        t.MentionsOnly (P · · w')
  | property, depth, .primitive kind constraints _, w, _, _ => by
    rw [typeAt]
    exact nestedType_keeps (P := P) (.pure fun _ => mentionsOnly_scalarType)
  | property, depth, .enumeration values _, w, _, enumerations => by
    rw [typeAt]
    exact nestedType_keeps (P := P)
      (enumerations (property, values) (by simp [SchemaNode.typeEnumerations]) w (K.grows_refl w))
  | property, depth, .array items _ _, w, hr, he => by
    rw [typeAt]
    exact nestedType_keeps (P := P) (.map ((typeAt_keeps stable none (depth + 1) items w hr he).weaken
      fun _ _ _ _ ht => ht.array))
  | property, depth, .object [] none _, w, _, _ => by
    rw [typeAt]
    exact nestedType_keeps (P := P) (.pure fun _ => TypeExpr.mentionsOnly_any.record)
  | property, depth, .object [] (some value) _, w, hr, he => by
    rw [typeAt]
    refine nestedType_keeps (P := P) (.map ((typeAt_keeps stable none (depth + 1) value w ?_ he).weaken
      fun _ _ _ _ ht => ht.record))
    exact fun p hp => hr p (by simpa [SchemaNode.pointers, SchemaNode.pointersOpt,
      Property.pointersAll] using hp)
  | property, depth, .object (p :: ps) _ _, w, hr, he => by
    rw [typeAt]
    · refine nestedType_keeps (P := P) (.map (membersAt_keeps stable (depth + 1) (p :: ps) w ?_ he))
      exact fun p hp => hr p (by simp [SchemaNode.pointers, hp])
    all_goals simp
  | property, depth, .reference pointer notes, w, hr, _ => by
    rw [typeAt]
    exact nestedType_keeps (P := P) (hr pointer (by simp [SchemaNode.pointers]) notes w (K.grows_refl w))
  | property, depth, .oneOf _ _, w, _, _ => by
    rw [typeAt]
    exact nestedType_keeps (P := P) (.pure fun _ => TypeExpr.mentionsOnly_any)
  | property, depth, .anyOf _ _, w, _, _ => by
    rw [typeAt]
    exact nestedType_keeps (P := P) (.pure fun _ => TypeExpr.mentionsOnly_any)
  | property, depth, .allOf _ _, w, _, _ => by
    rw [typeAt]
    exact nestedType_keeps (P := P) (.pure fun _ => TypeExpr.mentionsOnly_any)
  | property, depth, .unknown _, w, _, _ => by
    rw [typeAt]
    exact nestedType_keeps (P := P) (.pure fun _ => TypeExpr.mentionsOnly_any)

lemma membersAt_keeps (stable : ∀ q x u v, K.grows u v → P q x u → P q x v) :
    ∀ (depth : Int) (ps : List Property) (w : Workspace),
      (∀ pointer ∈ Property.pointersAll ps, ∀ notes w', K.grows w w' →
        K.Keeps (references pointer notes) w' fun t w'' => t.MentionsOnly (P · · w'')) →
      (∀ e ∈ Property.typeEnumerations ps, ∀ w', K.grows w w' →
        K.Keeps (enumType c namespace_ parent e.1 e.2) w' fun t w'' =>
          t.MentionsOnly (P · · w'')) →
      K.Keeps (membersAt c namespace_ references parent depth ps) w fun ms w' =>
        (TypeExpr.object ms).MentionsOnly (P · · w')
  | depth, [], w, _, _ => by
    rw [membersAt]
    exact .pure fun _ => TypeExpr.mentionsOnly_object_nil
  | depth, ⟨name, required, s⟩ :: rest, w, hr, he => by
    rw [membersAt]
    refine (typeAt_keeps stable (some name) depth s w
      (fun p hp => hr p (by simp [Property.pointersAll, hp]))
      fun e h => he e (by simp [Property.typeEnumerations, h])).bind fun t w' hg ht => ?_
    refine (membersAt_keeps stable depth rest w'
      (fun p hp notes w'' hg' =>
        hr p (by simp [Property.pointersAll, hp]) notes w'' (K.grows_trans hg hg'))
      fun e h w'' hg' =>
        he e (by simp [Property.typeEnumerations, h]) w'' (K.grows_trans hg hg')).bind
      fun ms w'' hg' hms => .pure fun _ => ?_
    exact (ht.imp fun q x => stable q x w' w'' hg').object_cons hms

end

/-- A field keeps what the type of its schema keeps. -/
lemma typeField_keeps {name : String} {required : Bool} {s : SchemaNode} {w : Workspace}
    (h : K.Keeps (typeAt c none references parent (some name) 1 s) w fun t w' =>
      t.MentionsOnly (P · · w')) :
    K.Keeps (typeField c references parent name required s) w fun f w' =>
      f.type.MentionsOnly (P · · w') :=
  h.bind fun _ _ _ ht => .pure fun _ => ht

end ClientGen.Emission
