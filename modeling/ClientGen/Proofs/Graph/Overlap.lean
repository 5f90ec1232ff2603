import ClientGen.Proofs.Graph.Closure
import ClientGen.Proofs.Graph.Order

/-!
# Descriptions that overlap

Two descriptions may have some schemas in common that lead to nothing else. Every walk along
references that starts at such schemas is the same in both.
-/

namespace ClientGen.Graph

open Api Schema

variable {d d' : Description} {S : String → Prop} {s : String}

/-- Two descriptions have the schemas of `S` in common, those that are missing included, and no
reference leads out of `S`. -/
structure Overlap (d d' : Description) (S : String → Prop) : Prop where
  source : d.source = d'.source
  schema : ∀ s, S s → d.schema? s = d'.schema? s
  closed : ∀ s t, S s → Leads d s t → S t

/-- Every pointer inside the schema leads into `S`, if it leads anywhere. -/
def LeadsInto (S : String → Prop) (node : SchemaNode) : Prop :=
  ∀ pointer ∈ node.pointers, ∀ s, targetName? pointer = some s → S s

lemma mem_schemaNames_iff : s ∈ d.schemaNames ↔ (d.schema? s).isSome = true := by
  rw [Description.schema?, List.lookup_isSome_iff, Description.schemaNames, List.mem_map]
  exact exists_congr fun e => and_congr_right fun _ => by rw [beq_iff_eq, eq_comm]

namespace Overlap

/-- A description has everything in common with itself. -/
lemma refl (d : Description) : Overlap d d fun _ => True :=
  ⟨rfl, fun _ _ => rfl, fun _ _ _ _ => trivial⟩

lemma mem_schemaNames (h : Overlap d d' S) (hs : S s) : s ∈ d.schemaNames ↔ s ∈ d'.schemaNames := by
  rw [mem_schemaNames_iff, mem_schemaNames_iff, h.schema s hs]

lemma targets (h : Overlap d d' S) (hs : S s) : d.targets s = d'.targets s := by
  rw [Description.targets, Description.targets, h.schema s hs]

lemma strayMessages (h : Overlap d d' S) (hs : S s) : d.strayMessages s = d'.strayMessages s := by
  rw [Description.strayMessages, Description.strays, h.schema s hs]
  rfl

lemma schema_eq (h : Overlap d d' S) (hs : S s) : d.schema s = d'.schema s := by
  rw [Description.schema, Description.schema, h.schema s hs, h.source]

lemma resolve (h : Overlap d d' S) {pointer : String}
    (into : ∀ s, targetName? pointer = some s → S s) : d.resolve pointer = d'.resolve pointer := by
  unfold Description.resolve
  cases target : targetName? pointer with
  | none =>
    dsimp only
    rw [h.source]
  | some s =>
    dsimp only
    rw [h.schema_eq (into s target)]

/-- The schemas of `S` lead into `S`. -/
lemma leadsInto (h : Overlap d d' S) (hs : S s) {node : SchemaNode}
    (found : d.schema? s = some node) : LeadsInto S node := by
  intro pointer hp t ht
  refine h.closed s t hs ?_
  rw [Leads, Description.targets, found]
  exact mem_distinct.2 (List.mem_filterMap.2 ⟨pointer, hp, ht⟩)

/-! ### Walks -/

/-- A walk from schemas of `S` meets nothing else. -/
lemma walk (h : Overlap d d' S) {seen work : List String} (into : ∀ s ∈ work, S s) :
    walk d seen work = Graph.walk d' seen work := by
  induction seen, work using walk.induct d with
  | case1 seen => simp [Graph.walk]
  | case2 seen name work old ih =>
    rw [Graph.walk.eq_def d, Graph.walk.eq_def d']
    dsimp only
    rw [if_pos old, if_pos old, ih fun s hs => into s (List.mem_cons_of_mem name hs)]
  | case3 seen name work new known seen' ih =>
    have hn := into name List.mem_cons_self
    rw [Graph.walk.eq_def d, Graph.walk.eq_def d']
    dsimp only
    rw [if_neg new, if_neg new, if_pos known, if_pos ((h.mem_schemaNames hn).1 known),
      ← h.targets hn, ih fun s hs => ?_]
    rcases List.mem_append.1 hs with hs | hs
    · exact h.closed name s hn (List.mem_of_mem_filter hs)
    · exact into s (List.mem_cons_of_mem name hs)
  | case4 seen name work new missing ih =>
    have hn := into name List.mem_cons_self
    rw [Graph.walk.eq_def d, Graph.walk.eq_def d']
    dsimp only
    rw [if_neg new, if_neg new, if_neg missing, if_neg (mt (h.mem_schemaNames hn).2 missing),
      ih fun s hs => into s (List.mem_cons_of_mem name hs)]

lemma closure (h : Overlap d d' S) {roots : List String} (into : ∀ s ∈ roots, S s) :
    closure d roots = Graph.closure d' roots := by
  rw [Graph.closure, Graph.closure, h.walk into]

lemma enter (h : Overlap d d' S) {members : List String} : ∀ (budget : Nat) {name : String}
    (walk : OrderWalk), S name →
      walk.enter d members budget name = walk.enter d' members budget name
  | 0, _, _, _ => rfl
  | budget + 1, name, walk, hn => by
    have below (start : OrderWalk) : ((d.targets name).filter members.contains).foldl
        (fun s t => s.enter d members budget t) start =
        ((d.targets name).filter members.contains).foldl
          (fun s t => s.enter d' members budget t) start :=
      List.foldl_ext _ _ _ fun s t ht =>
        h.enter budget s (h.closed name t hn (List.mem_of_mem_filter ht))
    rw [OrderWalk.enter, OrderWalk.enter, ← h.targets hn]
    dsimp only
    rw [below]

lemma orderWalk (h : Overlap d d' S) {names : List String} (into : ∀ s ∈ names, S s) :
    orderWalk d names = Graph.orderWalk d' names :=
  List.foldl_ext _ _ _ fun walk name hn => h.enter _ walk (into name (mem_distinct.1 hn))

lemma dependencyOrder (h : Overlap d d' S) {names : List String} (into : ∀ s ∈ names, S s) :
    dependencyOrder d names = Graph.dependencyOrder d' names :=
  congrArg OrderWalk.ordered (h.orderWalk into)

lemma orderMessages (h : Overlap d d' S) {names : List String} (into : ∀ s ∈ names, S s) :
    orderMessages d names = Graph.orderMessages d' names := by
  rw [Graph.orderMessages, Graph.orderMessages, ← h.orderWalk into]
  exact List.flatMap_congr fun s hs => h.strayMessages (into s (mem_of_entered hs))

end Overlap

end ClientGen.Graph
