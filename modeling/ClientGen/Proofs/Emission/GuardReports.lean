import ClientGen.Proofs.Emission.Agreement
import ClientGen.Proofs.Schema.Positions

/-!
# Reports of the depth guard

Types and validators stop at a depth of nesting, write `any` for what would be deeper, and report each
time that they do. What has been replaced in the type of a schema is seen at the positions inside the
schema; how often the guard of a file has replaced something inside a schema is counted in the log.
-/

namespace ClientGen.TypeScript

open Schema

/-- The type of a member. -/
def Member.type : Member → TypeExpr
  | ⟨_, _, type⟩ => type

/-- What stands at a branch of a type, whether null is allowed beside the type or not. -/
def TypeExpr.inside? : TypeExpr → Branch → Option TypeExpr
  | .array item, .item => some item
  | .record value, .value => some value
  | .object members, .property i => members[i]?.map Member.type
  | .orNull type, b => type.inside? b
  | _, _ => none

/-- What stands at a position of a type. -/
def TypeExpr.part? : TypeExpr → Position → Option TypeExpr
  | t, [] => some t
  | t, b :: p => (t.inside? b).bind fun u => u.part? p

variable {t : TypeExpr}

@[simp] lemma TypeExpr.inside?_withNull (b : Branch) : t.withNull.inside? b = t.inside? b := by
  unfold TypeExpr.withNull
  split
  · rfl
  · rw [TypeExpr.inside?]

@[simp] lemma TypeExpr.isAny_withNull : t.withNull.isAny = t.isAny := by
  unfold TypeExpr.withNull
  split
  · rfl
  · next plain => simpa [TypeExpr.isAny] using plain

end ClientGen.TypeScript

namespace ClientGen.Schema

/-- Whether a schema has a type of its own: its type is `any` only if something replaces it. -/
def SchemaNode.isTyped : SchemaNode → Bool
  | .primitive _ _ _ => true
  | .array _ _ _ => true
  | .object _ _ _ => true
  | .enumeration _ _ => true
  | .oneOf _ _ => false
  | .anyOf _ _ => false
  | .allOf _ _ => false
  | .reference _ _ => false
  | .unknown _ => false

lemma SchemaNode.exists_of_isEnumeration {n : SchemaNode} (h : n.isEnumeration = true) :
    ∃ values notes, n = .enumeration values notes := by
  cases n <;> first | exact ⟨_, _, rfl⟩ | cases h

/-- Whether a schema is an object with properties. -/
def SchemaNode.isRecord : SchemaNode → Bool
  | .object (_ :: _) _ _ => true
  | _ => false

lemma SchemaNode.exists_of_isRecord {n : SchemaNode} (h : n.isRecord = true) :
    ∃ p ps additional notes, n = .object (p :: ps) additional notes := by
  unfold SchemaNode.isRecord at h
  split at h
  · exact ⟨_, _, _, _, rfl⟩
  · cases h

lemma SchemaNode.isEnumeration_of_isRecord {n : SchemaNode} (h : n.isRecord = true) :
    n.isEnumeration = false := by
  obtain ⟨p, ps, additional, notes, rfl⟩ := exists_of_isRecord h
  rfl

lemma SchemaNode.one_le_nesting {n : SchemaNode} (h : n.isRecord = true) : 1 ≤ n.nesting := by
  obtain ⟨p, ps, additional, notes, rfl⟩ := exists_of_isRecord h
  rw [nesting_object]
  exact Nat.le_add_left 1 _

end ClientGen.Schema

namespace ClientGen.Emission

open Api Enumeration Naming Output Schema Template TypeScript

/-! ### Replaced schemas -/

/-- The type `t` has `any` for everything that is `k` levels inside the schema, and nothing further
out has been replaced. -/
def CutAt : Nat → SchemaNode → TypeExpr → Prop
  | 0, _, t => t = .any
  | k + 1, n, t => (n.isTyped = true → t.isAny = false) ∧
    ∀ e ∈ n.children, ∃ u, t.inside? e.1 = some u ∧ CutAt k e.2 u

/-- The type `t` has `any` at the positions `cuts` of a schema, and neither there nor below has
anything else been replaced. -/
structure Replaced (n : SchemaNode) (cuts : List Position) (t : TypeExpr) : Prop where
  cut : ∀ p ∈ cuts, t.part? p = some .any
  kept : ∀ p m, n.At p m → (∀ q ∈ cuts, ¬ q <+: p) → m.isTyped = true →
    ∃ u, t.part? p = some u ∧ u.isAny = false

variable {n : SchemaNode} {t : TypeExpr} {k : Nat}

lemma CutAt.part?_eq_any : ∀ {k : Nat} {n : SchemaNode} {t : TypeExpr} {p : Position},
    CutAt k n t → p ∈ n.atLevel k → t.part? p = some .any
  | 0, _, _, _, h, hp => by
    rw [List.mem_singleton.1 hp, TypeExpr.part?, h]
  | k + 1, _, _, _, h, hp => by
    obtain ⟨e, he, hp⟩ := List.mem_flatMap.1 hp
    obtain ⟨q, hq, rfl⟩ := List.mem_map.1 hp
    obtain ⟨u, hu, hk⟩ := h.2 e he
    rw [TypeExpr.part?, hu]
    exact hk.part?_eq_any hq

lemma CutAt.part?_of_length_lt : ∀ {k : Nat} {n m : SchemaNode} {t : TypeExpr} {p : Position},
    CutAt k n t → n.At p m → p.length < k → m.isTyped = true →
      ∃ u, t.part? p = some u ∧ u.isAny = false
  | k + 1, _, _, t, _, h, .here, _, typed => ⟨t, rfl, h.1 typed⟩
  | k + 1, _, _, _, _, h, .inside hb hm, hp, typed => by
    obtain ⟨u, hu, hk⟩ := h.2 _ hb
    rw [TypeExpr.part?, hu]
    exact hk.part?_of_length_lt hm (by simpa using hp) typed

/-- What is cut at a level has been replaced on this level and on no other. -/
lemma CutAt.replaced (h : CutAt k n t) : Replaced n (n.atLevel k) t where
  cut _ := h.part?_eq_any
  kept p m hm above typed := by
    refine h.part?_of_length_lt hm (Nat.lt_of_not_le fun deep => ?_) typed
    refine above (p.take k) ?_ (List.take_prefix k p)
    exact SchemaNode.mem_atLevel.2 ⟨List.length_take_of_le deep, hm.take k⟩

lemma CutAt.withNull (h : CutAt (k + 1) n t) : CutAt (k + 1) n t.withNull := by
  simpa [CutAt] using h

/-- A schema without positions inside has only to keep its own type. -/
lemma cutAt_of_no_children (none_ : n.children = []) (typed : n.isTyped = true → t.isAny = false) :
    CutAt (k + 1) n t :=
  ⟨typed, by simp [none_]⟩

lemma cutAt_array {items : SchemaNode} {constraints : Constraints} {notes : Notes}
    (h : CutAt k items t) : CutAt (k + 1) (.array items constraints notes) (.array t) :=
  ⟨fun _ => rfl, by simpa [SchemaNode.children, TypeExpr.inside?] using h⟩

lemma cutAt_record {value : SchemaNode} {notes : Notes} (h : CutAt k value t) :
    CutAt (k + 1) (.object [] (some value) notes) (.record t) :=
  ⟨fun _ => rfl, by simpa [SchemaNode.children, TypeExpr.inside?] using h⟩

/-- The types of the properties stand at their positions in the type of the object. -/
lemma cutAt_object {p : Property} {ps : List Property} {additional : Option SchemaNode}
    {notes : Notes} {ms : List Member}
    (h : List.Forall₂ (fun p (m : Member) => CutAt k p.schema m.type) (p :: ps) ms) :
    CutAt (k + 1) (.object (p :: ps) additional notes) (.object ms) := by
  refine ⟨fun _ => rfl, ?_⟩
  rw [SchemaNode.children_object]
  intro e he
  obtain ⟨i, hi, rfl⟩ := List.mem_mapIdx.1 he
  have hi' : i < ms.length := h.length_eq ▸ hi
  exact ⟨_, by rw [TypeExpr.inside?, List.getElem?_eq_getElem hi']; rfl,
    h.get hi hi'⟩

/-! ### Reports of the guard -/

/-- The two files of a directory. -/
inductive Side
  | types
  | validators
  deriving DecidableEq, Repr

/-- The schemas that a file has begun. -/
def Side.begun : Side → Workspace → List String
  | types, w => w.types.processed
  | validators, w => w.validators.processed

/-- How the guard of a file reports that it has replaced something inside a schema. -/
def Side.message (W : Side) (s : String) : Message :=
  ⟨.debug, "Depth guard tripped in " ++ s ++ match W with
    | types => ", using any"
    | validators => ", using z.any()"⟩

/-- How many times the guard of a file has replaced something inside a schema. -/
def Side.trips (W : Side) (s : String) (w : Workspace) : Nat :=
  w.log.count (W.message s)

variable {c : Setting} {W : Side} {s parent name : String} {α β : Type} {x : Emit α} {f : α → Emit β}
  {w : Workspace} {l : Nat} {Q Q' : α → Workspace → Prop} {R : β → Workspace → Prop}

lemma Side.message_inj : W.message parent = W.message s ↔ parent = s := by
  unfold Side.message
  cases W <;> simp [String.append_left_inj, String.append_right_inj]

/-- The guard is the only one to report something that begins like its reports. -/
lemma Side.message_ne {level : Level} {text : String} (h : text.toList.head? ≠ some 'D') :
    W.message s ≠ ⟨level, text⟩ := by
  intro he
  have same : (W.message s).text = text := by rw [he]
  refine h ?_
  rw [← same]
  simp [Side.message]

/-- What a schema has of `k` belongs to `s` only if it is `s` itself. -/
def share (s parent : String) (k : Nat) : Nat :=
  if parent = s then k else 0

@[simp] lemma share_self : share s s k = k :=
  if_pos rfl

lemma share_of_ne (h : parent ≠ s) : share s parent k = 0 :=
  if_neg h

@[simp] lemma share_zero : share s parent 0 = 0 := by
  unfold share
  split <;> rfl

lemma share_add : share s parent (k + l) = share s parent k + share s parent l := by
  unfold share
  split <;> rfl

/-- While `s` is begun, a computation makes the guard report `k` times that it has replaced something
inside `s`, and a result of it is as `Q` asks. -/
def Side.Trips (W : Side) (s : String) (k : Nat) (x : Emit α) (w : Workspace)
    (Q : α → Workspace → Prop) : Prop :=
  s ∈ W.begun w → Meets x w (fun a w' => s ∈ W.begun w' ∧ W.trips s w' = W.trips s w + k ∧ Q a w')
    fun _ _ => True

namespace Side

lemma Trips.weaken (h : W.Trips s k x w Q) (hQ : ∀ a w', Q a w' → Q' a w') :
    W.Trips s k x w Q' :=
  fun hs => (h hs).imp (fun a w' ⟨hb, ht, ha⟩ => ⟨hb, ht, hQ a w' ha⟩) fun _ _ he => he

lemma Trips.pure {a : α} (h : Q a w) : W.Trips s 0 (pure a) w Q :=
  fun hs => meets_pure.2 ⟨hs, rfl, h⟩

lemma Trips.bind (hx : W.Trips s k x w Q) (hf : ∀ a w', Q a w' → W.Trips s l (f a) w' R) :
    W.Trips s (k + l) (x >>= f) w R := by
  intro hs
  refine meets_bind.2 ((hx hs).imp ?_ fun _ _ he => he)
  rintro a w' ⟨hs', ht, ha⟩
  refine (hf a w' ha hs').imp ?_ fun _ _ he => he
  rintro b w'' ⟨hs'', ht', hb⟩
  exact ⟨hs'', by omega, hb⟩

/-- What comes behind makes no reports. -/
lemma Trips.bind_quiet (hx : W.Trips s k x w Q) (hf : ∀ a w', Q a w' → W.Trips s 0 (f a) w' R) :
    W.Trips s k (x >>= f) w R :=
  hx.bind hf

/-- What comes in front makes no reports. -/
lemma Trips.quiet_bind (hx : W.Trips s 0 x w Q) (hf : ∀ a w', Q a w' → W.Trips s k (f a) w' R) :
    W.Trips s k (x >>= f) w R := by
  have both := hx.bind hf
  rwa [Nat.zero_add] at both

lemma Trips.map {g : α → β} (h : W.Trips s k x w fun a w' => R (g a) w') :
    W.Trips s k (g <$> x) w R :=
  fun hs => meets_map.2 (h hs)

lemma Trips.get_bind {f : Workspace → Emit β} (h : W.Trips s k (f w) w R) :
    W.Trips s k (get >>= f) w R :=
  fun hs => meets_bind.2 (meets_get.2 (h hs))

/-- What takes nothing back from what is begun makes no reports as long as it leaves the log alone. -/
lemma Trips.modify {g : Workspace → Workspace} {T : Unit → Workspace → Prop}
    (begun : W.begun w ⊆ W.begun (g w)) (log : (g w).log = w.log) (h : T () (g w)) :
    W.Trips s 0 (modify g) w T :=
  fun hs => meets_modify.2 ⟨begun hs, by rw [trips, log, trips, Nat.add_zero], h⟩

lemma Trips.liftM {r : Except EmitError α} (ok : ∀ a, r = .ok a → Q a w) :
    W.Trips s 0 (liftM r) w Q :=
  fun hs => meets_liftM.2 ⟨fun a h => ⟨hs, rfl, ok a h⟩, fun _ _ => trivial⟩

lemma Trips.ite {p : Prop} [Decidable p] {y : Emit α} (yes : p → W.Trips s k x w Q)
    (no : ¬p → W.Trips s k y w Q) : W.Trips s k (if p then x else y) w Q := by
  by_cases h : p
  · rw [if_pos h]
    exact yes h
  · rw [if_neg h]
    exact no h

lemma begun_log (log : Log) : W.begun { w with log } = W.begun w := by
  cases W <;> rfl

/-- A report of the guard on some schema. -/
lemma Trips.guard {level : Level} {text : String} (h : W.message parent = ⟨level, text⟩) :
    W.Trips s (share s parent 1) (note level text) w fun _ _ => True := by
  intro hs
  refine meets_modify.2 ⟨?_, ?_, trivial⟩
  · rwa [begun_log]
  · rw [trips, trips, List.count_append, ← h, List.count_singleton, share]
    simp [message_inj]

/-- A report on something else. -/
lemma Trips.note {level : Level} {text : String} (h : W.message s ≠ ⟨level, text⟩) :
    W.Trips s 0 (note level text) w fun _ _ => True := by
  intro hs
  refine meets_modify.2 ⟨?_, ?_, trivial⟩
  · rwa [begun_log]
  · rw [trips, trips, List.count_append, List.count_singleton]
    simp [Ne.symm h]

/-- Whoever fails when something has failed ends with a result only if nothing has. -/
lemma Trips.caught {g : Except SchemaError α → Emit β} (h : W.Trips s k x w Q)
    (ok : ∀ a w', Q a w' → W.Trips s 0 (g (.ok a)) w' R)
    (error : ∀ e w', Meets (g (.error e)) w' (fun _ _ => False) fun _ _ => True) :
    W.Trips s k (caught x >>= g) w R := by
  intro hs
  refine meets_bind.2 (meets_caught.2 ((h hs).imp ?_ ?_))
  · rintro a w' ⟨hs', ht, ha⟩
    refine (ok a w' ha hs').imp ?_ fun _ _ he => he
    rintro b w'' ⟨hs'', ht', hb⟩
    exact ⟨hs'', by omega, hb⟩
  · rintro (e | e | e | e) w' -
    · exact (error e w').imp (fun _ _ => False.elim) fun _ _ he => he
    all_goals trivial

/-- Items are dealt with one after another, each with its reports. -/
lemma Trips.mapM {γ δ : Type} {g : γ → Emit δ} {T : γ → δ → Prop} {reports : γ → Nat} :
    ∀ (items : List γ) (w : Workspace),
      (∀ a ∈ items, ∀ w', W.Trips s (reports a) (g a) w' fun b _ => T a b) →
      W.Trips s (items.map reports).sum (items.mapM g) w fun bs _ => List.Forall₂ T items bs
  | [], w, _ => by
    rw [List.mapM_nil]
    exact .pure .nil
  | a :: rest, w, h => by
    rw [List.mapM_cons, List.map_cons, List.sum_cons]
    refine (h a (by simp) w).bind fun b w' hb => ?_
    refine (Trips.mapM rest w' fun a' ha => h a' (by simp [ha])).bind_quiet fun bs w'' hbs => ?_
    exact .pure (.cons hb hbs)

end Side

/-! ### Names -/

lemma typeName_trips {t : String} : W.Trips s 0 (typeName c t) w fun _ _ => True := by
  refine Side.Trips.quiet_bind (.liftM (Q := fun _ _ => True) fun _ _ => trivial) fun node w' _ => ?_
  split
  · intro hs
    cases W <;> exact meets_modifyGet.2 ⟨hs, rfl, trivial⟩
  · exact .pure trivial

lemma inlineEnumName_trips {values : List String} {context : Option Context} :
    W.Trips s 0 (inlineEnumName values context) w fun _ _ => True := by
  refine .get_bind (Side.Trips.quiet_bind (Q := fun _ _ => True) ?_ fun x w' _ => ?_)
  · intro hs
    cases W <;> exact meets_modifyGet.2 ⟨hs, rfl, trivial⟩
  · refine .ite (fun _ => ?_) fun _ => .pure trivial
    exact (Side.Trips.note (Side.message_ne (by simp))).quiet_bind fun _ _ _ => .pure trivial

/-! ### Nested schemas -/

/-- The levels that the guard lets pass, counted from a depth on. -/
def Setting.levels (c : Setting) (depth : Int) : Nat :=
  (c.maxDepth + 1 - depth).toNat

/-- How many reports on `s` the guard makes when it replaces a level of a schema inside `parent`. -/
def cuts (s parent : String) (k : Nat) (n : SchemaNode) : Nat :=
  share s parent (n.atLevel k).length

/-- How many reports on `s` the guard makes when it replaces a level of some properties. -/
def propertyCuts (s parent : String) (k : Nat) (ps : List Property) : Nat :=
  (ps.map fun p => cuts s parent k p.schema).sum

lemma cuts_zero : cuts s parent 0 n = share s parent 1 :=
  rfl

lemma cuts_of_no_children (none_ : n.children = []) : cuts s parent (k + 1) n = 0 := by
  rw [cuts, SchemaNode.length_atLevel_succ, none_]
  exact share_zero

lemma cuts_array {items : SchemaNode} {constraints : Constraints} {notes : Notes} :
    cuts s parent (k + 1) (.array items constraints notes) = cuts s parent k items := by
  simp [cuts, SchemaNode.length_atLevel_succ, SchemaNode.children]

lemma cuts_record {value : SchemaNode} {notes : Notes} :
    cuts s parent (k + 1) (.object [] (some value) notes) = cuts s parent k value := by
  simp [cuts, SchemaNode.length_atLevel_succ, SchemaNode.children]

lemma cuts_object {p : Property} {ps : List Property} {additional : Option SchemaNode}
    {notes : Notes} : cuts s parent (k + 1) (.object (p :: ps) additional notes) =
      propertyCuts s parent k (p :: ps) := by
  have share_sum (ks : List Nat) : share s parent ks.sum = (ks.map (share s parent)).sum := by
    induction ks with
    | nil => exact share_zero
    | cons k ks ih => rw [List.sum_cons, share_add, ih, List.map_cons, List.sum_cons]
  have sums := @SchemaNode.sum_children_object p ps additional notes fun n => (n.atLevel k).length
  rw [cuts, SchemaNode.length_atLevel_succ, sums, share_sum, List.map_map]
  rfl

/-- The guard replaces what is deeper than it allows, and what is not it leaves to be lowered. -/
lemma nested_trips {depth : Int} {nullable : Bool} {any : α} {withNull : α → α} {level : Level}
    {text : String} {shape : α → TypeExpr} (message : W.message parent = ⟨level, text⟩)
    (shape_any : shape any = .any) (shape_withNull : ∀ a, shape (withNull a) = (shape a).withNull)
    (h : ∀ k, c.levels (depth + 1) = k → W.Trips s (cuts s parent (k + 1) n) x w
      fun a _ => CutAt (k + 1) n (shape a)) :
    W.Trips s (cuts s parent (c.levels depth) n)
      (if c.maxDepth < depth then do
        note level text
        return any
      else do
        let a ← x
        return if nullable then withNull a else a)
      w fun a _ => CutAt (c.levels depth) n (shape a) := by
  refine .ite (fun deep => ?_) fun fits => ?_
  · have none_ : c.levels depth = 0 := by
      unfold Setting.levels
      omega
    rw [none_, cuts_zero]
    exact (Side.Trips.guard message).bind_quiet fun _ _ _ => .pure shape_any
  · have more : c.levels depth = c.levels (depth + 1) + 1 := by
      unfold Setting.levels
      omega
    rw [more]
    refine (h _ rfl).bind_quiet fun a w' ha => .pure ?_
    cases nullable with
    | false => exact ha
    | true =>
      simp only [if_true]
      rw [shape_withNull]
      exact ha.withNull

/-- A schema without positions inside is lowered without a report. -/
lemma leaf_trips {shape : α → TypeExpr} (none_ : n.children = [])
    (h : W.Trips s 0 x w fun a _ => n.isTyped = true → (shape a).isAny = false) :
    W.Trips s (cuts s parent (k + 1) n) x w fun a _ => CutAt (k + 1) n (shape a) := by
  rw [cuts_of_no_children none_]
  exact h.weaken fun _ _ typed => cutAt_of_no_children none_ typed

end ClientGen.Emission
