import ClientGen.Graph.Closure
import ClientGen.Proofs.Collections
import ClientGen.Proofs.Schema.References
import Mathlib.Logic.Relation
import Mathlib.Tactic.Common

/-!
# What a closure holds

A closure holds the known schemas that some chain of direct references leads to from a root, and
nothing else.
-/

namespace ClientGen.Graph

open Api Relation Schema

variable {d : Description} {s t : String}

/-- The schema `s` references the schema `t` directly. -/
def Leads (d : Description) (s t : String) : Prop := t ∈ d.targets s

/-- The schema `s` is known, and a reference in its tree leads to the schema `t`. -/
def References (d : Description) (s t : String) : Prop :=
  ∃ node, d.schema? s = some node ∧ node.RefersTo t

/-- What a schema references directly is what the references in its tree lead to. -/
lemma leads_iff : Leads d s t ↔ References d s t := by
  unfold Leads References Description.targets
  cases d.schema? s with
  | none => simp
  | some node => simp [SchemaNode.RefersTo, mem_distinct, mem_pointers_iff]

lemma leads_eq (d : Description) : Leads d = References d := by
  funext s t
  exact propext leads_iff

/-- The schema `s` references the schema `t`, and both are among the names. -/
def ReferencesWithin (d : Description) (names : List String) (s t : String) : Prop :=
  References d s t ∧ s ∈ names ∧ t ∈ names

/-- A chain of direct references leads from a root to the known schema `s`. -/
def Reached (d : Description) (roots : List String) (s : String) : Prop :=
  s ∈ d.schemaNames ∧ ∃ root ∈ roots, ReflTransGen (Leads d) root s

/-- Fewer of the names than the budget are left to be entered. -/
def Room (names entered : List String) (budget : Nat) : Prop :=
  (names.filter fun n => !entered.contains n).length < budget

namespace Room

variable {names entered entered' : List String} {budget : Nat}

lemma start (names entered : List String) : Room names entered (names.length + 1) :=
  Nat.lt_succ_of_le (List.length_filter_le _ _)

lemma of_subset (h : Room names entered budget) (grown : entered ⊆ entered') :
    Room names entered' budget :=
  Nat.lt_of_le_of_lt (length_filter_left_le grown) h

lemma enter (h : Room names entered (budget + 1)) (known : s ∈ names) (new : s ∉ entered) :
    Room names (entered ++ [s]) budget :=
  Nat.lt_of_lt_of_le (length_filter_lt known new) (Nat.le_of_lt_succ h)

end Room

/-- The known names that a walk meets. -/
def visited (d : Description) (seen work : List String) : List String :=
  (walk d seen work).filterMap Visit.known?

section Visited

variable {seen work : List String}

lemma visited_nil : visited d seen [] = [] := by
  simp [visited, walk]

lemma visited_seen (h : s ∈ seen) : visited d seen (s :: work) = visited d seen work := by
  rw [visited, walk, if_pos h]
  rfl

lemma visited_known (new : s ∉ seen) (known : s ∈ d.schemaNames) :
    visited d seen (s :: work) = s :: visited d (seen ++ [s])
      ((d.targets s).filter (fun t => !(seen ++ [s]).contains t) ++ work) := by
  rw [visited, walk, if_neg new, if_pos known]
  rfl

lemma visited_missing (new : s ∉ seen) (missing : s ∉ d.schemaNames) :
    visited d seen (s :: work) = visited d seen work := by
  rw [visited, walk, if_neg new, if_neg missing]
  rfl

end Visited

/-- The name that a visit meets. -/
def Visit.name : Visit → String
  | .known name => name
  | .missing name => name

/-- The name is known, or it is missing, as the visit has it. -/
def Visit.Holds (d : Description) : Visit → Prop
  | .known name => name ∈ d.schemaNames
  | .missing name => name ∉ d.schemaNames

/-- A walk meets what a chain of references leads to only. -/
lemma of_mem_walk {seen work : List String} {visit : Visit} (h : visit ∈ walk d seen work) :
    visit.Holds d ∧ ∃ root ∈ work, ReflTransGen (Leads d) root visit.name := by
  induction seen, work using walk.induct d with
  | case1 seen => simp [walk] at h
  | case2 seen name work old ih =>
    rw [walk, if_pos old] at h
    obtain ⟨holds, root, hr, chain⟩ := ih h
    exact ⟨holds, root, List.mem_cons_of_mem name hr, chain⟩
  | case3 seen name work new known seen' ih =>
    rw [walk, if_neg new, if_pos known] at h
    rcases List.mem_cons.1 h with rfl | h
    · exact ⟨known, name, by simp, .refl⟩
    · obtain ⟨holds, root, hr, chain⟩ := ih h
      rcases List.mem_append.1 hr with hr | hr
      · exact ⟨holds, name, by simp, .head (List.mem_of_mem_filter hr) chain⟩
      · exact ⟨holds, root, List.mem_cons_of_mem name hr, chain⟩
  | case4 seen name work new missing ih =>
    rw [walk, if_neg new, if_neg missing] at h
    rcases List.mem_cons.1 h with rfl | h
    · exact ⟨missing, name, by simp, .refl⟩
    · obtain ⟨holds, root, hr, chain⟩ := ih h
      exact ⟨holds, root, List.mem_cons_of_mem name hr, chain⟩

lemma known_mem_walk_iff {seen work : List String} :
    Visit.known s ∈ walk d seen work ↔ s ∈ visited d seen work := by
  rw [visited, List.mem_filterMap]
  refine ⟨fun h => ⟨_, h, rfl⟩, ?_⟩
  rintro ⟨visit | visit, h, same⟩
  · exact Option.some.inj same ▸ h
  · cases same

lemma reached_of_mem_visited {seen work : List String} (h : s ∈ visited d seen work) :
    Reached d work s :=
  of_mem_walk (known_mem_walk_iff.2 h)

/-- Every known schema that an expanded name references is expanded too or still to be met. -/
def Pending (d : Description) (seen work : List String) : Prop :=
  ∀ s ∈ seen, ∀ t ∈ d.targets s, t ∈ d.schemaNames → t ∈ seen ∨ t ∈ work

namespace Pending

variable {seen work : List String}

/-- A name of the work is left out that is expanded or not known. -/
lemma skip (h : Pending d seen (s :: work)) (needless : s ∈ d.schemaNames → s ∈ seen) :
    Pending d seen work := by
  intro a ha t ht known
  rcases h a ha t ht known with met | met
  · exact .inl met
  · rcases List.mem_cons.1 met with rfl | met
    · exact .inl (needless known)
    · exact .inr met

/-- The first name of the work is expanded: what it references is put before the rest. -/
lemma expand (h : Pending d seen (s :: work)) :
    Pending d (seen ++ [s])
      ((d.targets s).filter (fun t => !(seen ++ [s]).contains t) ++ work) := by
  intro a ha t ht known
  by_cases old : t ∈ seen ++ [s]
  · exact .inl old
  · rcases List.mem_append.1 ha with ha | ha
    · rcases h a ha t ht known with met | met
      · exact absurd (List.mem_append_left _ met) old
      · rcases List.mem_cons.1 met with rfl | met
        · exact absurd (by simp) old
        · exact .inr (List.mem_append_right _ met)
    · obtain rfl := List.mem_singleton.1 ha
      exact .inr (List.mem_append_left _ (List.mem_filter.2 ⟨ht, by simpa using old⟩))

end Pending

/-- A walk leaves nothing out: the known names of its work are met, and so are those that a met name
references. -/
lemma visited_closed (seen work : List String) (pending : Pending d seen work) :
    (∀ s ∈ work, s ∈ d.schemaNames → s ∈ seen ∨ s ∈ visited d seen work) ∧
      ∀ s, s ∈ seen ∨ s ∈ visited d seen work → ∀ t ∈ d.targets s, t ∈ d.schemaNames →
        t ∈ seen ∨ t ∈ visited d seen work := by
  induction seen, work using walk.induct d with
  | case1 seen =>
    refine ⟨by simp, fun s hs t ht kt => ?_⟩
    rw [visited_nil] at hs ⊢
    exact (pending s (by simpa using hs) t ht kt).imp_right fun h => by simp at h
  | case2 seen name work old ih =>
    rw [visited_seen old]
    have rest := ih (pending.skip fun _ => old)
    refine ⟨fun s hs known => ?_, rest.2⟩
    rcases List.mem_cons.1 hs with rfl | hs
    · exact .inl old
    · exact rest.1 s hs known
  | case3 seen name work new known seen' ih =>
    rw [visited_known new known]
    have rest := ih pending.expand
    -- The walk goes on with the name among those expanded; here it is the first that is met.
    have moved (u : String) : u ∈ seen' ∨ u ∈ visited d seen'
        ((d.targets name).filter (fun t => !seen'.contains t) ++ work) ↔
        u ∈ seen ∨ u ∈ name :: visited d seen'
          ((d.targets name).filter (fun t => !seen'.contains t) ++ work) := by
      simp [seen', or_assoc]
    refine ⟨fun s hs ks => (moved s).1 ?_, fun s hs t ht kt => (moved t).1 ?_⟩
    · rcases List.mem_cons.1 hs with rfl | hs
      · exact .inl (by simp [seen'])
      · exact rest.1 s (List.mem_append_right _ hs) ks
    · exact rest.2 s ((moved s).2 hs) t ht kt
  | case4 seen name work new missing ih =>
    rw [visited_missing new missing]
    have rest := ih (pending.skip fun known => absurd known missing)
    refine ⟨fun s hs known => rest.1 s ?_ known, rest.2⟩
    exact (List.mem_cons.1 hs).resolve_left fun he => missing (he ▸ known)

/-- A name that references something is known. -/
lemma mem_schemaNames_of_leads (h : Leads d s t) : s ∈ d.schemaNames := by
  unfold Leads Description.targets at h
  split at h
  · next n hn =>
    obtain ⟨before, after, hd, -⟩ := List.lookup_eq_some_iff.1 hn
    simp [Description.schemaNames, hd]
  · simp at h

/-- The closure of some roots holds exactly what is reached from them. -/
theorem mem_closure_iff {roots : List String} : s ∈ closure d roots ↔ Reached d roots s := by
  refine ⟨reached_of_mem_visited, ?_⟩
  rintro ⟨known, root, hr, chain⟩
  obtain ⟨roots_met, step⟩ := visited_closed (d := d) [] roots (by simp [Pending])
  simp only [List.not_mem_nil, false_or] at roots_met step
  induction chain with
  | refl => exact roots_met root hr known
  | tail _ hl ih => exact step _ (ih (mem_schemaNames_of_leads hl)) _ hl known

/-- A closure is closed under direct references to known schemas. -/
lemma mem_closure_of_leads {roots : List String} (hs : s ∈ closure d roots) (hl : Leads d s t)
    (known : t ∈ d.schemaNames) : t ∈ closure d roots := by
  obtain ⟨-, root, hr, chain⟩ := mem_closure_iff.1 hs
  exact mem_closure_iff.2 ⟨known, root, hr, chain.tail hl⟩

end ClientGen.Graph
