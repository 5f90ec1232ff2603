import ClientGen.Partition
import ClientGen.Proofs.Emission.OperationSchemas
import ClientGen.Proofs.Graph.Closure
import ClientGen.Proofs.Outcome

/-!
# Where schemas go

A schema that two or more selected modules need is shared; one that a single selected module needs
stays with it.
-/

namespace ClientGen.Partition

open Api Graph Schema

variable {d : Description} {module s : String}

/-- The operations of the module need the known schema `s`: one of them references it, or a schema
from which references lead to it. -/
def Needs (d : Description) (module s : String) : Prop :=
  s ∈ d.schemaNames ∧ ∃ op ∈ d.operationsOf module, ∃ root ∈ op.referencedSchemas,
    Relation.ReflTransGen (Leads d) root s

lemma mem_closure_roots : s ∈ closure d (roots d module) ↔ Needs d module s := by
  rw [mem_closure_iff]
  constructor
  · rintro ⟨known, root, hr, chain⟩
    obtain ⟨op, hop, hr⟩ := List.mem_flatMap.1 (mem_distinct.1 hr)
    exact ⟨known, op, hop, root, hr, chain⟩
  · rintro ⟨known, op, hop, root, hr, chain⟩
    exact ⟨known, root, mem_distinct.2 (List.mem_flatMap.2 ⟨op, hop, hr⟩), chain⟩

lemma Needs.leads {t : String} (hs : Needs d module s) (hl : Leads d s t)
    (known : t ∈ d.schemaNames) : Needs d module t :=
  mem_closure_roots.1 (mem_closure_of_leads (mem_closure_roots.2 hs) hl known)

/-! ### Tables -/

section Tables

variable {β : Type}

lemma lookup_foldl_setEntry {f : String → β} {k : String} : ∀ (keys : List String)
    (acc : List (String × β)),
    ((keys.map fun m => (m, f m)).foldl (fun acc (k, v) => setEntry k v acc) acc).lookup k =
      if k ∈ keys then some (f k) else acc.lookup k
  | [], _ => by simp
  | m :: rest, acc => by
    rw [List.map_cons, List.foldl_cons, lookup_foldl_setEntry rest, lookup_setEntry]
    by_cases hr : k ∈ rest
    · simp [hr]
    · by_cases hm : k = m <;> simp [hr, hm]

lemma map_fst_foldl_setEntry {f : String → β} : ∀ (keys : List String) (acc : List (String × β)),
    ((keys.map fun m => (m, f m)).foldl (fun acc (k, v) => setEntry k v acc) acc).map Prod.fst =
      keys.foldl addNew (acc.map Prod.fst)
  | [], _ => rfl
  | m :: rest, acc => by
    rw [List.map_cons, List.foldl_cons, map_fst_foldl_setEntry rest, map_fst_setEntry,
      List.foldl_cons]

/-- Of entries with distinct keys two or more satisfy a condition if two keys do. -/
lemma two_le_countP_iff {table : List (String × β)} {p : String × β → Bool}
    (nodup : (table.map Prod.fst).Nodup) :
    2 ≤ table.countP p ↔ ∃ a ∈ table, ∃ b ∈ table, a.1 ≠ b.1 ∧ p a = true ∧ p b = true := by
  rw [List.countP_eq_length_filter]
  have distinct : ((table.filter p).map Prod.fst).Nodup :=
    nodup.sublist (List.filter_sublist.map _)
  constructor
  · intro two
    match h : table.filter p, two, distinct with
    | a :: b :: rest, _, distinct =>
      have ha : a ∈ table.filter p := by simp [h]
      have hb : b ∈ table.filter p := by simp [h]
      simp only [List.map_cons, List.nodup_cons, List.mem_cons, not_or] at distinct
      exact ⟨a, List.mem_of_mem_filter ha, b, List.mem_of_mem_filter hb, distinct.1.1,
        (List.mem_filter.1 ha).2, (List.mem_filter.1 hb).2⟩
  · rintro ⟨a, ha, b, hb, hne, hpa, hpb⟩
    have ha : a ∈ table.filter p := List.mem_filter.2 ⟨ha, hpa⟩
    have hb : b ∈ table.filter p := List.mem_filter.2 ⟨hb, hpb⟩
    match h : table.filter p with
    | [] => simp [h] at ha
    | [e] =>
      rw [h, List.mem_singleton] at ha hb
      exact absurd (ha.trans hb.symm ▸ rfl) hne
    | e :: f :: rest => simp

end Tables

/-! ### What is shared -/

section Shared

variable {map : ModuleMap} {selected : List String}

/-- The module is in the map, and the name is in its list. -/
def Lists (map : ModuleMap) (module s : String) : Prop :=
  ∃ names, map.lookup module = some names ∧ s ∈ names

lemma lists_of_mem (nodup : (map.map Prod.fst).Nodup) {e : String × List String} (he : e ∈ map)
    (hs : s ∈ e.2) : Lists map e.1 s :=
  ⟨e.2, lookup_eq_of_mem nodup he, hs⟩

/-- A name is shared if the lists of two selected modules have it. -/
lemma mem_shared (nodup : (map.map Prod.fst).Nodup) : s ∈ shared map selected ↔
    ∃ m ∈ selected, ∃ m' ∈ selected, m ≠ m' ∧ Lists map m s ∧ Lists map m' s := by
  have two : 2 ≤ map.countP (fun e => e.2.contains s && selected.contains e.1) ↔
      ∃ m ∈ selected, ∃ m' ∈ selected, m ≠ m' ∧ Lists map m s ∧ Lists map m' s := by
    rw [two_le_countP_iff nodup]
    simp only [Bool.and_eq_true, List.contains_eq_mem, decide_eq_true_eq]
    constructor
    · rintro ⟨a, ha, b, hb, hne, ⟨hsa, hma⟩, hsb, hmb⟩
      exact ⟨a.1, hma, b.1, hmb, hne, lists_of_mem nodup ha hsa, lists_of_mem nodup hb hsb⟩
    · rintro ⟨m, hm, m', hm', hne, ⟨names, found, hs⟩, names', found', hs'⟩
      exact ⟨(m, names), mem_of_lookup found, (m', names'), mem_of_lookup found', hne, ⟨hs, hm⟩,
        hs', hm'⟩
  rw [← two]
  unfold shared
  simp only [mem_sortTexts, List.mem_filter, mem_distinct, decide_eq_true_eq, List.countP_map,
    List.countP_filter]
  refine ⟨fun h => h.2, fun h => ⟨?_, h⟩⟩
  obtain ⟨e, he, hs⟩ := List.countP_pos_iff.1 (Nat.lt_of_lt_of_le Nat.zero_lt_two h)
  simp only [Bool.and_eq_true, List.contains_eq_mem, decide_eq_true_eq] at hs
  exact List.mem_flatten.2 ⟨e.2, List.mem_map_of_mem (List.mem_filter.2 ⟨he, by simpa using hs.2⟩),
    hs.1⟩

lemma nodup_shared : (shared map selected).Nodup :=
  (List.mergeSort_perm _ _).nodup_iff.2 (nodup_distinct.filter _)

/-- Two modules of the map are selected. -/
def Several (map : ModuleMap) (selected : List String) : Prop :=
  ∃ m ∈ map.map Prod.fst, ∃ m' ∈ map.map Prod.fst, m ≠ m' ∧ m ∈ selected ∧ m' ∈ selected

lemma length_members_lt_two_iff (nodup : (map.map Prod.fst).Nodup) :
    (members map selected).length < 2 ↔ ¬Several map selected := by
  rw [← Nat.not_le, not_iff_not, members, ← List.countP_eq_length_filter, List.countP_map,
    two_le_countP_iff nodup]
  simp only [Function.comp_apply, List.contains_eq_mem, decide_eq_true_eq]
  constructor
  · rintro ⟨a, ha, b, hb, hne, hm, hm'⟩
    exact ⟨a.1, List.mem_map_of_mem ha, b.1, List.mem_map_of_mem hb, hne, hm, hm'⟩
  · rintro ⟨m, known, m', known', hne, hm, hm'⟩
    obtain ⟨a, ha, rfl⟩ := List.mem_map.1 known
    obtain ⟨b, hb, rfl⟩ := List.mem_map.1 known'
    exact ⟨a, ha, b, hb, hne, hm, hm'⟩

/-- A name is split off if the lists of two selected modules have it. -/
lemma mem_split (nodup : (map.map Prod.fst).Nodup) : s ∈ (split map selected).2 ↔
    ∃ m ∈ selected, ∃ m' ∈ selected, m ≠ m' ∧ Lists map m s ∧ Lists map m' s := by
  unfold split
  split
  · next few =>
    refine ⟨fun h => by simp at h, ?_⟩
    rintro ⟨m, hm, m', hm', hne, ⟨_, found, -⟩, _, found', -⟩
    exact absurd ⟨m, List.mem_map_of_mem (mem_of_lookup found), m',
      List.mem_map_of_mem (mem_of_lookup found'), hne, hm, hm'⟩
      ((length_members_lt_two_iff nodup).1 few)
  · exact mem_shared nodup

end Shared

/-! ### The module map -/

lemma nodup_moduleMap : ((moduleMap d).map Prod.fst).Nodup := by
  rw [moduleMap, tableOf, map_fst_foldl_setEntry]
  exact nodup_foldl_addNew List.nodup_nil

lemma mem_keys_iff : module ∈ (moduleMap d).map Prod.fst ↔ module ∈ d.modules := by
  rw [moduleMap, tableOf, map_fst_foldl_setEntry, mem_foldl_addNew]
  simp

lemma lookup_moduleMap (h : module ∈ (moduleMap d).map Prod.fst) :
    (moduleMap d).lookup module = some (closure d (roots d module)) := by
  rw [moduleMap, tableOf, lookup_foldl_setEntry, if_pos (mem_keys_iff.1 h)]

lemma lists_moduleMap_iff : Lists (moduleMap d) module s ↔
    module ∈ (moduleMap d).map Prod.fst ∧ Needs d module s := by
  rw [← mem_closure_roots]
  constructor
  · rintro ⟨names, found, hs⟩
    have known : module ∈ (moduleMap d).map Prod.fst := List.mem_map_of_mem (mem_of_lookup found)
    rw [lookup_moduleMap known] at found
    exact ⟨known, Option.some.inj found ▸ hs⟩
  · rintro ⟨known, hs⟩
    exact ⟨_, lookup_moduleMap known, hs⟩

variable {selected : List String}

lemma exists_lists_iff :
    (∃ m ∈ selected, ∃ m' ∈ selected, m ≠ m' ∧ Lists (moduleMap d) m s ∧ Lists (moduleMap d) m' s) ↔
      ∃ m ∈ (moduleMap d).map Prod.fst, ∃ m' ∈ (moduleMap d).map Prod.fst, m ≠ m' ∧
        m ∈ selected ∧ m' ∈ selected ∧ Needs d m s ∧ Needs d m' s := by
  simp only [lists_moduleMap_iff]
  constructor
  · rintro ⟨m, hm, m', hm', hne, ⟨known, needs⟩, known', needs'⟩
    exact ⟨m, known, m', known', hne, hm, hm', needs, needs'⟩
  · rintro ⟨m, known, m', known', hne, hm, hm', needs, needs'⟩
    exact ⟨m, hm, m', hm', hne, ⟨known, needs⟩, known', needs'⟩

/-- A schema is shared if two selected modules need it. -/
lemma mem_shared_iff : s ∈ shared (moduleMap d) selected ↔
    ∃ m ∈ (moduleMap d).map Prod.fst, ∃ m' ∈ (moduleMap d).map Prod.fst, m ≠ m' ∧
      m ∈ selected ∧ m' ∈ selected ∧ Needs d m s ∧ Needs d m' s :=
  (mem_shared nodup_moduleMap).trans exists_lists_iff

/-- A schema is split off if two selected modules need it. -/
theorem mem_common_iff : s ∈ (split (moduleMap d) selected).2 ↔
    ∃ m ∈ (moduleMap d).map Prod.fst, ∃ m' ∈ (moduleMap d).map Prod.fst, m ≠ m' ∧
      m ∈ selected ∧ m' ∈ selected ∧ Needs d m s ∧ Needs d m' s :=
  (mem_split nodup_moduleMap).trans exists_lists_iff

lemma lookup_map_snd {β : Type} {f : String → β → β} {k : String} : ∀ table : List (String × β),
    (table.map fun e => (e.1, f e.1 e.2)).lookup k = (table.lookup k).map (f k)
  | [] => rfl
  | (k', v) :: rest => by
    rw [List.map_cons, List.lookup_cons, List.lookup_cons, lookup_map_snd rest]
    by_cases h : k = k'
    · simp [h]
    · have h' : (k == k') = false := by simpa using h
      simp [h']

/-- Of the modules of a map that are selected some names are taken out. -/
lemma lookup_without {map : ModuleMap} {common : List String} :
    (map.map fun e => if selected.contains e.1 then
        (e.1, e.2.filter fun n => !common.contains n) else (e.1, e.2)).lookup module =
      (map.lookup module).map fun names =>
        if selected.contains module then names.filter fun n => !common.contains n else names := by
  rw [← lookup_map_snd (k := module) (f := fun m (names : List String) =>
    if selected.contains m then names.filter fun n => !common.contains n else names) map]
  congr 1
  refine List.map_congr_left fun e _ => ?_
  split <;> rfl

/-- A selected module has a list of its own: what it needs and does not share. -/
lemma exists_own (known : module ∈ (moduleMap d).map Prod.fst) (hm : module ∈ selected) :
    ∃ own, (split (moduleMap d) selected).1.lookup module = some own ∧
      ∀ s, s ∈ own ↔ Needs d module s ∧ s ∉ (split (moduleMap d) selected).2 := by
  unfold split
  split
  · exact ⟨_, lookup_moduleMap known, by simp [mem_closure_roots]⟩
  · dsimp only
    rw [lookup_without, lookup_moduleMap known]
    exact ⟨_, rfl, by simp [hm, mem_closure_roots]⟩

/-- A selected module keeps what it needs and does not share. -/
theorem mem_own_iff (known : module ∈ (moduleMap d).map Prod.fst) (hm : module ∈ selected) :
    s ∈ ((split (moduleMap d) selected).1.lookup module).getD [] ↔
      Needs d module s ∧ s ∉ (split (moduleMap d) selected).2 := by
  obtain ⟨own, found, mem_own⟩ := exists_own known hm
  rw [found]
  exact mem_own s

/-! ### Closed under references -/

lemma mem_referencedSchemas_iff {op : Operation} {t : String} :
    t ∈ op.referencedSchemas ↔ ∃ node ∈ op.schemas, node.RefersTo t := by
  rw [Operation.referencedSchemas, mem_distinct, List.mem_filterMap]
  constructor
  · rintro ⟨pointer, hp, hs⟩
    obtain ⟨node, hn, hp⟩ := List.mem_flatMap.1 hp
    exact ⟨node, hn, pointer, mem_pointers_iff.1 hp, hs⟩
  · rintro ⟨node, hn, pointer, hp, hs⟩
    exact ⟨pointer, List.mem_flatMap.2 ⟨node, hn, mem_pointers_iff.2 hp⟩, hs⟩

/-- The operations of a module need what they refer to themselves. -/
lemma Needs.of_refers {op : Operation} {node : SchemaNode} (hop : op ∈ d.operationsOf module)
    (hn : node ∈ op.schemas) (refers : node.RefersTo s) (known : s ∈ d.schemaNames) :
    Needs d module s :=
  ⟨known, op, hop, s, mem_referencedSchemas_iff.2 ⟨node, hn, refers⟩, .refl⟩

/-- A known schema that a shared schema references is shared too. One that a schema of a selected
module references stays with the module or is shared, and so does one that a parameter, the body or a
response of an operation of the module refers to. -/
theorem split_closed (d : Description) (selected : List String) :
    (∀ s ∈ (split (moduleMap d) selected).2, ∀ t, References d s t → t ∈ d.schemaNames →
      t ∈ (split (moduleMap d) selected).2) ∧
    ∀ module ∈ d.modules, module ∈ selected →
      ∃ own, (split (moduleMap d) selected).1.lookup module = some own ∧
        (∀ s ∈ own, ∀ t, References d s t → t ∈ d.schemaNames →
          t ∈ own ∨ t ∈ (split (moduleMap d) selected).2) ∧
        ∀ op ∈ d.operations, module ∈ op.modules → ∀ node : SchemaNode,
          ((∃ p ∈ op.parameters, p.schema = node) ∨ op.requestBody = some node ∨
            ∃ status, (status, some node) ∈ op.responses) →
          ∀ t, node.RefersTo t → t ∈ d.schemaNames →
            t ∈ own ∨ t ∈ (split (moduleMap d) selected).2 := by
  constructor
  · intro s hs t references known
    have leads := leads_iff.2 references
    obtain ⟨m, hm, m', hm', hne, chosen, chosen', needs, needs'⟩ := mem_common_iff.1 hs
    exact mem_common_iff.2 ⟨m, hm, m', hm', hne, chosen, chosen', needs.leads leads known,
      needs'.leads leads known⟩
  · intro module hm chosen
    obtain ⟨own, found, mem_own⟩ := exists_own (mem_keys_iff.2 hm) chosen
    have kept {t : String} (needs : Needs d module t) :
        t ∈ own ∨ t ∈ (split (moduleMap d) selected).2 := by
      by_cases shared : t ∈ (split (moduleMap d) selected).2
      · exact .inr shared
      · exact .inl ((mem_own t).2 ⟨needs, shared⟩)
    refine ⟨own, found, ?_, ?_⟩
    · intro s hs t references known
      exact kept (((mem_own s).1 hs).1.leads (leads_iff.2 references) known)
    · intro op hop owned node part t refers known
      have of_module : op ∈ d.operationsOf module := List.mem_filter.2 ⟨hop, by simpa using owned⟩
      exact kept (.of_refers of_module (Emission.mem_schemas_iff.2 part) refers known)

/-! ### Selection -/

variable {available ignored : List String} {log : Log}

/-- Only available modules are selected, each once. -/
lemma selectModules_meets (nodup : available.Nodup) :
    Meets (selectModules available selected ignored) log
      (fun modules _ => modules.Nodup ∧ modules ⊆ available) fun _ _ => True := by
  have remains : (available.filter fun m => !ignored.contains m) ⊆ available :=
    fun _ h => List.mem_of_mem_filter h
  have valid : ((distinct selected).filter
      (available.filter fun m => !ignored.contains m).contains) ⊆ available := fun m hm =>
    remains (by simpa using (List.mem_filter.1 hm).2)
  unfold selectModules
  dsimp only
  split
  · exact meets_bind.2 (meets_throw.2 trivial)
  split
  · exact meets_pure.2 ⟨nodup.filter _, remains⟩
  split
  · refine meets_bind.2 (meets_modify.2 ?_)
    split
    · exact meets_bind.2 (meets_throw.2 trivial)
    · exact meets_pure.2 ⟨nodup_distinct.filter _, valid⟩
  · split
    · exact meets_bind.2 (meets_throw.2 trivial)
    · exact meets_pure.2 ⟨nodup_distinct.filter _, valid⟩

end ClientGen.Partition

/-!
## Splitting a module map

Whatever lists a map has, splitting it up takes the names that several of the selected modules have
out of their lists and keeps the others where they are. Only which modules of the map are selected
makes a difference to this.
-/

namespace ClientGen.Partition

variable {map : ModuleMap} {selected selected' : List String} {module s : String}
  {names : List String}

/-! ### The selection -/

/-- The selections agree on the modules of the map. -/
def SameSelection (map : ModuleMap) (selected selected' : List String) : Prop :=
  ∀ m ∈ map.map Prod.fst, m ∈ selected ↔ m ∈ selected'

namespace SameSelection

variable (h : SameSelection map selected selected')
include h

lemma contains_eq {m : String} (hm : m ∈ map.map Prod.fst) :
    selected.contains m = selected'.contains m := by
  rw [Bool.eq_iff_iff]
  simpa using h m hm

lemma members_eq : members map selected = members map selected' :=
  List.filter_congr fun _ hm => h.contains_eq hm

lemma shared_eq : shared map selected = shared map selected' := by
  have lists : (map.filter fun e => selected.contains e.1) =
      map.filter fun e => selected'.contains e.1 :=
    List.filter_congr fun _ he => h.contains_eq (List.mem_map_of_mem he)
  unfold shared
  rw [lists]

lemma split_eq : split map selected = split map selected' := by
  have lists (common : List String) : (map.map fun e => if selected.contains e.1 then
        (e.1, e.2.filter fun n => !common.contains n) else (e.1, e.2)) =
      map.map fun e => if selected'.contains e.1 then
        (e.1, e.2.filter fun n => !common.contains n) else (e.1, e.2) :=
    List.map_congr_left fun _ he => by rw [h.contains_eq (List.mem_map_of_mem he)]
  unfold split
  rw [h.members_eq, h.shared_eq]
  exact congrArg (ite _ _) (Prod.ext (lists _) rfl)

end SameSelection

/-! ### The lists -/

lemma shared_pairwise : (shared map selected).Pairwise (· < ·) := by
  refine ((sorted_sortTexts _).and nodup_shared).imp fun ⟨le, ne⟩ => ?_
  exact String.not_le.1 fun ge => ne (String.le_antisymm le ge)

section Several

variable (several : Several map selected) (distinct : (map.map Prod.fst).Nodup)
include several distinct

lemma split_eq_of_several : split map selected =
    (map.map fun e => if selected.contains e.1 then
      (e.1, e.2.filter fun n => !(shared map selected).contains n) else (e.1, e.2),
      shared map selected) :=
  if_neg fun few => (length_members_lt_two_iff distinct).1 few several

lemma lookup_split (found : map.lookup module = some names) :
    (split map selected).1.lookup module =
      some (if module ∈ selected then names.filter (· ∉ (split map selected).2) else names) := by
  rw [split_eq_of_several several distinct, lookup_without, found]
  simp

lemma map_fst_split : (split map selected).1.map Prod.fst = map.map Prod.fst := by
  rw [split_eq_of_several several distinct, List.map_map]
  refine List.map_congr_left fun e _ => ?_
  rw [Function.comp_apply]
  split <;> rfl

/-- A name that is not split off stays with the selected modules that have it. -/
lemma lists_split_iff (kept : s ∉ (split map selected).2) (chosen : module ∈ selected) :
    Lists (split map selected).1 module s ↔ Lists map module s := by
  constructor
  · rintro ⟨own, found, hs⟩
    have known : module ∈ map.map Prod.fst := by
      rw [← map_fst_split several distinct]
      exact List.mem_map_of_mem (mem_of_lookup found)
    obtain ⟨e, he, rfl⟩ := List.mem_map.1 known
    have there := lookup_eq_of_mem distinct he
    rw [lookup_split several distinct there, if_pos chosen, Option.some.injEq] at found
    exact ⟨e.2, there, List.mem_of_mem_filter (found ▸ hs)⟩
  · rintro ⟨names, found, hs⟩
    refine ⟨_, lookup_split several distinct found, ?_⟩
    rw [if_pos chosen]
    exact List.mem_filter.2 ⟨hs, by simpa using kept⟩

end Several

/-- Without two selected modules a map stays as it is. Otherwise the names that two selected modules
have are split off, sorted and each once; they are taken out of the lists of the selected modules,
which keep all else in its order, and the other modules keep their lists, so that a name that is not
split off stays with exactly one selected module. Selections that agree on the modules of the map
split it up in the same way. -/
theorem split_exact (map : ModuleMap) (distinct : (map.map Prod.fst).Nodup)
    (selected : List String) :
    (¬Several map selected → split map selected = (map, [])) ∧
    (Several map selected →
      (∀ s, s ∈ (split map selected).2 ↔
        ∃ m ∈ selected, ∃ m' ∈ selected, m ≠ m' ∧ Lists map m s ∧ Lists map m' s) ∧
      (split map selected).2.Pairwise (· < ·) ∧
      (split map selected).1.map Prod.fst = map.map Prod.fst ∧
      (∀ m names, map.lookup m = some names → (split map selected).1.lookup m =
        some (if m ∈ selected then names.filter (· ∉ (split map selected).2) else names)) ∧
      ∀ s, s ∉ (split map selected).2 → ∀ m ∈ selected, Lists map m s →
        ∀ m' ∈ selected, Lists (split map selected).1 m' s ↔ m' = m) ∧
    ∀ selected', SameSelection map selected selected' →
      split map selected = split map selected' := by
  refine ⟨fun few => if_pos ((length_members_lt_two_iff distinct).2 few), fun several => ?_,
    fun _ => SameSelection.split_eq⟩
  refine ⟨fun s => mem_split distinct, ?_, map_fst_split several distinct,
    fun m names => lookup_split several distinct, ?_⟩
  · rw [split_eq_of_several several distinct]
    exact shared_pairwise
  · intro s kept m hm has m' hm'
    rw [lists_split_iff several distinct kept hm']
    refine ⟨fun has' => ?_, fun same => same ▸ has⟩
    by_contra ne
    exact kept ((mem_split distinct).2 ⟨m', hm', m, hm, ne, has', has⟩)

/-- Users, products and orders have a schema in common. -/
def shop : ModuleMap :=
  [("users", ["User", "Common"]), ("products", ["Product", "Common", "Product"]),
    ("orders", ["Order", "Common"])]

/-- Of the users and products of the shop, selected with repeats and an unknown module, the schema
that they have in common is split off. -/
theorem split_shop : (shop.map Prod.fst).Nodup ∧
    Several shop ["products", "ghost", "users", "products"] ∧
    split shop ["products", "ghost", "users", "products"] = split shop ["users", "products"] ∧
    (split shop ["users", "products"]).2 = ["Common"] ∧
    (split shop ["users", "products"]).1.lookup "products" = some ["Product", "Product"] ∧
    (split shop ["users", "products"]).1.lookup "orders" = some ["Order", "Common"] := by
  have distinct : (shop.map Prod.fst).Nodup := by decide
  have several : Several shop ["products", "ghost", "users", "products"] :=
    ⟨"users", by decide, "products", by decide, by decide, by decide, by decide⟩
  have both : Several shop ["users", "products"] :=
    ⟨"users", by decide, "products", by decide, by decide, by decide, by decide⟩
  obtain ⟨-, -, same⟩ := split_exact shop distinct ["products", "ghost", "users", "products"]
  obtain ⟨-, parts, -⟩ := split_exact shop distinct ["users", "products"]
  obtain ⟨-, -, -, left, -⟩ := parts both
  have common : (split shop ["users", "products"]).2 = ["Common"] := by decide +kernel
  rw [common] at left
  exact ⟨distinct, several, same _ (by simp [SameSelection, shop]), common,
    left "products" ["Product", "Common", "Product"] rfl, left "orders" ["Order", "Common"] rfl⟩

end ClientGen.Partition
