import ClientGen.Proofs.Collections
import ClientGen.Proofs.Emission.ValidatorEmission
import Mathlib.Algebra.Group.Nat.Defs

/-!
# Evaluation of the validator file

However often and in whatever order validators are asked for, the file can be evaluated from top to
bottom. If no emission has a reason to fail, what a validator looks up when it is used is declared
as well, and has an explicit type.
-/

namespace ClientGen.Emission

open Api Enumeration Naming Schema Template TypeScript

/-- A question for the validator of a schema, perhaps with the node to take it from. -/
structure ValidatorCall where
  name : String
  node : Option SchemaNode := none

/-- The questions that one validator file has been asked, and what has come of it. Each is answered,
or an error of a schema is handed to the one who asks. Between them others may ask the registry. -/
inductive ValidatorRun (c : Setting) : List ValidatorCall → Workspace → Prop
  | fresh {w : Workspace} (validators : w.validators = {}) (deferred : w.deferredTargets = []) :
    ValidatorRun c [] w
  | call {calls : List ValidatorCall} {call : ValidatorCall} {w w' : Workspace}
      {result : Except EmitError Unit} :
    ValidatorRun c calls w → outcome (emitValidator c call.name call.node) w = (result, w') →
    (∀ e, result = .error e → ∃ s, e = .schema s) → ValidatorRun c (calls ++ [call]) w'
  | registry {calls : List ValidatorCall} {w : Workspace} {r : Registry} :
    ValidatorRun c calls w → w.registry ≤ r → ValidatorRun c calls { w with registry := r }

variable {c : Setting} {calls : List ValidatorCall} {w : Workspace}

/-- A question that is answered prolongs a run. -/
lemma ValidatorRun.answered (run : ValidatorRun c calls w) (call : ValidatorCall)
    (ok : (outcome (emitValidator c call.name call.node) w).1.isOk = true) :
    ValidatorRun c (calls ++ [call]) (outcome (emitValidator c call.name call.node) w).2 := by
  obtain ⟨⟨⟩, h⟩ := exists_of_isOk ok
  exact .call run h nofun

/-- All references resolve: those of the description, and those of the nodes that are given, each of
them for a known schema, which is an enumeration if the node is. -/
structure AllResolve (c : Setting) (calls : List ValidatorCall) : Prop where
  known : ∀ s n, c.description.schema? s = some n → ∀ pointer ∈ n.pointers,
    ∃ target, c.description.resolve pointer = .ok target
  given : ∀ call ∈ calls, ∀ n, call.node = some n →
    (∃ m, c.description.schema? call.name = some m ∧ m.isEnumeration = n.isEnumeration) ∧
      ∀ pointer ∈ n.pointers, ∃ target, c.description.resolve pointer = .ok target

/-- No schema shares its constant with another schema or with an enumeration. -/
def ConstsDistinct (c : Setting) (r : Registry) : Prop :=
  ∀ s n, c.description.schema? s = some n → n.isEnumeration = false →
    (∀ t, t ≠ s → c.identifier? r t ≠ some (typeIdentifier s)) ∧ ¬ r.Binds (typeIdentifier s)

/-- The nodes that schemas are lowered from: those of the description, and the given ones. -/
def LoweredFrom (c : Setting) (calls : List ValidatorCall) (s : String) (n : SchemaNode) : Prop :=
  c.description.schema? s = some n ∨ ⟨s, some n⟩ ∈ calls

/-- Nothing is known of the calls of a run. -/
def Ground.ofCalls (c : Setting) (calls : List ValidatorCall) : Ground c where
  within _ := True
  leads _ _ := True
  lowers := LoweredFrom c calls
  foreign _ := False
  permits _ := True
  broken _ _ _ := trivial
  closed _ _ h := ⟨trivial, fun _ => ⟨trivial, .inl (resolve_eq_ok h)⟩⟩
  unknown _ _ := trivial
  long _ _ _ := trivial
  typeUnwritten _ _ _ := trivial
  validatorUnwritten _ _ _ := trivial

/-- The calls of a run give no reason for an error of a schema. -/
def Ground.ofResolving (h : AllResolve c calls) : Ground c where
  within _ := True
  leads _ _ := True
  lowers := LoweredFrom c calls
  foreign _ := False
  permits e := ∀ s, e ≠ .schema s
  broken {s n pointer e} hn hp he := by
    have resolves : ∃ target, c.description.resolve pointer = .ok target := by
      rcases hn with hn | hn
      · exact h.known s n hn pointer hp
      · exact (h.given _ hn n rfl).2 pointer hp
    obtain ⟨target, ht⟩ := resolves
    rw [ht] at he
    cases he
  closed _ _ h := ⟨trivial, fun _ => ⟨trivial, .inl (resolve_eq_ok h)⟩⟩
  unknown {s n e} hn he := by
    rcases hn with hn | hn
    · exact absurd he (schema_ne_error hn)
    · obtain ⟨⟨m, hm, -⟩, -⟩ := h.given _ hn n rfl
      exact absurd he (schema_ne_error hm)
  long _ _ _ := nofun
  typeUnwritten _ _ _ := nofun
  validatorUnwritten _ _ _ := nofun

/-- What a run has written is sound on any ground on which its calls stand. -/
lemma ValidatorRun.sound (G : Ground c) (all : List ValidatorCall) (within : ∀ s, G.within s)
    (lowers : ∀ s n, LoweredFrom c all s n → G.lowers s n) (run : ValidatorRun c calls w)
    (sub : calls ⊆ all) :
    ValidatorsSound c G [] w.registry w.validators w.deferredTargets := by
  induction run with
  | fresh validators deferred =>
    rw [validators, deferred]
    exact .empty
  | @call calls call w w' result run outcome ok ih =>
    have hw := ih (List.append_subset.1 sub).1
    have hcall : call ∈ all := sub (by simp)
    have emitted := emitValidator_meets call.node (within call.name)
      (fun n hn => lowers _ n (hn.symm.imp And.right fun h => by rwa [← h])) hw
    unfold Meets at emitted
    rw [outcome] at emitted
    cases result with
    | ok _ => exact emitted.1
    | error e =>
      obtain ⟨s, rfl⟩ := ok e rfl
      exact (emitted.2 s rfl).1
  | registry _ hle ih => exact (ih sub).registry hle

/-- A run declares no constant twice, and whatever a declaration refers to as soon as it is made is
declared above it. If all references resolve and no two constants are the same, whatever is looked
up only when it is used is declared with an explicit type. -/
theorem ValidatorRun.evaluates (run : ValidatorRun c calls w) :
    w.validators.emitted.Nodup ∧
      (∀ above d below, w.validators.declarations = above ++ d :: below →
        ∀ k, d.declaration.Mentions none k → k ∈ above.map fun d => d.declaration.name) ∧
      (AllResolve c calls → ConstsDistinct c w.registry → ∀ d ∈ w.validators.declarations, ∀ k,
        d.declaration.Defers k → ∃ e ∈ w.validators.declarations, ∃ v description,
          e.declaration = .schema k v true description) := by
  have hw := run.sound (Ground.ofCalls c calls) calls (fun _ => trivial) (fun _ _ h => h)
    (List.Subset.refl _)
  refine ⟨hw.emitted_nodup, hw.evaluable, fun resolve distinct d hd k hm => ?_⟩
  have hw := run.sound (Ground.ofResolving resolve) calls (fun _ => trivial) (fun _ _ h => h)
    (List.Subset.refl _)
  obtain ⟨s, ht, x, -, -, hx, rfl, -⟩ := hw.deferred d hd k hm
  obtain ⟨-, n, hn, plain⟩ := hw.lowered s ht
  have known : ∃ m, c.description.schema? s = some m ∧ m.isEnumeration = false := by
    rcases hn with hn | hn
    · exact ⟨n, hn, plain⟩
    · obtain ⟨⟨m, hm, same⟩, -⟩ := resolve.given _ hn n rfl
      exact ⟨m, hm, same.trans plain⟩
  obtain ⟨m, hs, plain⟩ := known
  obtain rfl := Option.some.inj ((identifier?_of_ne_enumeration hs plain).symm.trans hx)
  rcases hw.annotated s ht _ hx with hp | hf | hc | ⟨e, he, v, description, heq⟩
  · simp at hp
  · obtain ⟨-, e, he⟩ := hw.failed s hf
    exact absurd rfl (he e)
  · obtain ⟨others, unbound⟩ := distinct s m hs plain
    rcases hc with ⟨t, ht, hx⟩ | hb | hf
    · exact absurd hx (others t ht)
    · exact absurd hb unbound
    · exact hf.elim
  · exact ⟨e, he, v, description, heq⟩

/-- Two schemas that lead to each other. -/
def friends : Setting where
  description := {
    schemas := [
      ("Cat", .object [⟨"friend", false, .reference "#/components/schemas/Dog" {}⟩] none {}),
      ("Dog", .object [⟨"friend", false, .reference "#/components/schemas/Cat" {}⟩] none {})] }
  templates := builtin

lemma friends_resolve : AllResolve friends [⟨"Cat", none⟩] where
  known s n hn := by
    have all : ∀ e ∈ friends.description.schemas, ∀ pointer ∈ e.2.pointers, ∃ target,
      friends.description.resolve pointer = .ok target := by decide +kernel
    exact all (s, n) (mem_of_lookup hn)
  given call hc n hn := by
    rw [List.mem_singleton.1 hc] at hn
    cases hn

lemma friends_distinct : ConstsDistinct friends {} := by
  intro s n hn _
  have all : ∀ e ∈ friends.description.schemas, ∀ e' ∈ friends.description.schemas, e'.1 ≠ e.1 →
    friends.identifier? {} e'.1 ≠ some (typeIdentifier e.1) := by decide +kernel
  refine ⟨fun t ht hx => ?_, fun ⟨key, hk⟩ => by simp [Registry.lookup?] at hk⟩
  cases hm : friends.description.schema? t with
  | none => simp [Setting.identifier?, hm] at hx
  | some m => exact all (s, n) (mem_of_lookup hn) (t, m) (mem_of_lookup hm) ht hx

/-- Asking for one of the two schemas declares both, and the reference that leads back is looked up
only when it is used. -/
theorem evaluable_friends : ∃ w, ValidatorRun friends [⟨"Cat", none⟩] w ∧
    w.validators.emitted = ["DogSchema", "CatSchema"] ∧
    (∀ above d below, w.validators.declarations = above ++ d :: below →
        ∀ k, d.declaration.Mentions none k → k ∈ above.map fun d => d.declaration.name) ∧
    ∀ d ∈ w.validators.declarations, ∀ k,
        d.declaration.Defers k → ∃ e ∈ w.validators.declarations, ∃ v description,
          e.declaration = .schema k v true description := by
  have start : ValidatorRun friends [] {} := .fresh rfl rfl
  have answered : ∃ w, ValidatorRun friends [⟨"Cat", none⟩] w ∧
      w.validators.emitted = ["DogSchema", "CatSchema"] ∧ w.registry = {} :=
    ⟨_, start.answered ⟨"Cat", none⟩ (by decide +kernel), by decide +kernel, by decide +kernel⟩
  obtain ⟨w, run, emitted, registry⟩ := answered
  obtain ⟨-, above, explicit⟩ := run.evaluates
  refine ⟨w, run, emitted, above, explicit friends_resolve ?_⟩
  rw [registry]
  exact friends_distinct

/-- A text that is as long as a number that cannot be written, and a list of such texts. -/
def longNames : Setting where
  description := {
    schemas := [
      ("Name", .primitive .string { minLength := some (16 ^ 3600 - 1 : Nat) } {}),
      ("Names", .array (.reference "#/components/schemas/Name" {}) {} {})] }
  templates := builtin

/-- An error that is not one of a schema leaves the schema behind as if it were declared: what is
asked for next refers to it. -/
theorem unevaluable_longNames : ∃ e w w',
    outcome (emitValidator longNames "Name" none) {} = (.error e, w) ∧
    outcome (emitValidator longNames "Names" none) w = (.ok (), w') ∧
    ¬ ∀ above d below, w'.validators.declarations = above ++ d :: below →
      ∀ k, d.declaration.Mentions none k → k ∈ above.map fun d => d.declaration.name := by
  have fails : (outcome (emitValidator longNames "Name" none) {}).1.isOk = false := by
    decide +kernel
  obtain ⟨e, first⟩ := exists_of_not_isOk fails
  have passes : (outcome (emitValidator longNames "Names" none)
      (outcome (emitValidator longNames "Name" none) {}).2).1.isOk = true := by decide +kernel
  obtain ⟨⟨⟩, second⟩ := exists_of_isOk passes
  have alone : (outcome (emitValidator longNames "Names" none) (outcome (emitValidator longNames
      "Name" none) {}).2).2.validators.declarations.length = 1 := by decide +kernel
  have refers : ∀ d ∈ (outcome (emitValidator longNames "Names" none) (outcome (emitValidator
      longNames "Name" none) {}).2).2.validators.declarations,
      d.declaration.Mentions none "NameSchema" := by decide +kernel
  refine ⟨e, _, _, first, second, fun h => ?_⟩
  obtain ⟨d, hd⟩ := List.length_eq_one_iff.1 alone
  have declared := h [] d [] hd "NameSchema" (refers d (by simp [hd]))
  simp at declared

end ClientGen.Emission
