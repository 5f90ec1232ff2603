import ClientGen.Proofs.Collections
import ClientGen.Proofs.Naming.Numbered
import ClientGen.Proofs.Registry
import Mathlib.Data.List.Perm.Subperm
import Mathlib.Data.List.Range

/-!
# Questions for the names of enumerations

The registry is asked by the values of an enumeration and by the schema that it is, or by the place
where it stands inside a schema. Whatever has been asked before, two enumerations with different
values get different names, as long as the keys of the questions tell their values apart. Keys are
plain text, and so a comma or a colon inside a value can make two questions share a key.
-/

namespace ClientGen.Enumeration

/-- A question for the name of an enumeration: of one that is a schema itself, or of one that stands
inside a schema. -/
inductive Question
  | schema (values : List String) (schema : String)
  | inline (values : List String) (context : Option Context)
  deriving DecidableEq, Repr

namespace Question

/-- The values of the enumeration. -/
def values : Question → List String
  | schema values _ => values
  | inline values _ => values

/-- The answer of a registry, and the registry behind it. -/
def ask (q : Question) (r : Registry) : String × Registry :=
  match q with
  | schema values s => r.nameOfSchema values s
  | inline values context => r.nameOf values context

/-- The key of the enumeration's values. -/
def valueKey (q : Question) : String :=
  Enumeration.valueKey q.values

/-- The key of the schema that the enumeration is. -/
def schemaKey? : Question → Option String
  | schema _ s => some (Registry.schemaKey s)
  | inline _ _ => none

/-- The key of the place where the enumeration stands. -/
def contextKey? : Question → Option String
  | schema _ _ => none
  | inline values context => Registry.contextKey? values context

/-- The keys that the question looks up and binds. -/
def keys (q : Question) : List String :=
  q.schemaKey?.toList ++ q.contextKey?.toList ++ [q.valueKey]

lemma valueKey_mem_keys {q : Question} : q.valueKey ∈ q.keys := by
  simp [keys]

lemma mem_keys_of_schemaKey? {q : Question} {key : String} (h : q.schemaKey? = some key) :
    key ∈ q.keys := by
  simp [keys, h]

lemma mem_keys_of_contextKey? {q : Question} {key : String} (h : q.contextKey? = some key) :
    key ∈ q.keys := by
  simp [keys, h]

/-- Two questions are about the same values, in whatever order and however often each is listed. -/
def SameValues (q q' : Question) : Prop :=
  q.values ⊆ q'.values ∧ q'.values ⊆ q.values

instance (q q' : Question) : Decidable (q.SameValues q') :=
  inferInstanceAs (Decidable (_ ∧ _))

lemma SameValues.symm {q q' : Question} (h : q.SameValues q') : q'.SameValues q :=
  ⟨h.2, h.1⟩

lemma SameValues.trans {q q' q'' : Question} (h : q.SameValues q') (h' : q'.SameValues q'') :
    q.SameValues q'' :=
  ⟨List.Subset.trans h.1 h'.1, List.Subset.trans h'.2 h.2⟩

end Question

/-- Which questions are asked. -/
abbrev Questions := Question → Prop

/-- Questions that share a key are about the same values. -/
def KeysTell (P : Questions) : Prop :=
  ∀ q q', P q → P q' → (∃ key ∈ q.keys, key ∈ q'.keys) → q.SameValues q'

/-- The kinds of keys are apart: questions that share a key are about the same values as often, and
the key of a place is neither that of a schema nor that of some values. -/
structure KeysApart (P : Questions) : Prop where
  values : ∀ q q', P q → P q' → (∃ key ∈ q.keys, key ∈ q'.keys) →
    sortTexts q.values = sortTexts q'.values
  places : ∀ q q' key, P q → P q' → q.contextKey? = some key →
    key ≠ q'.valueKey ∧ q'.schemaKey? ≠ some key

lemma Question.sameValues_of_sortTexts {q q' : Question}
    (h : sortTexts q.values = sortTexts q'.values) : q.SameValues q' :=
  ⟨fun _ hv => mem_sortTexts.1 (h ▸ mem_sortTexts.2 hv),
    fun _ hv => mem_sortTexts.1 (h ▸ mem_sortTexts.2 hv)⟩

lemma KeysApart.tell {P : Questions} (h : KeysApart P) : KeysTell P :=
  fun q q' hq hq' shared => Question.sameValues_of_sortTexts (h.values q q' hq hq' shared)

namespace Registry

/-- The registry behind some questions. -/
def after (r : Registry) : List Question → Registry
  | [] => r
  | q :: rest => (q.ask r).2.after rest

/-- Some questions with the answers to them, one after another. -/
def answers (r : Registry) : List Question → List (Question × String)
  | [] => []
  | q :: rest => (q, (q.ask r).1) :: (q.ask r).2.answers rest

/-! ### Candidates -/

/-- No number behind an identifier leaves it as it is. -/
lemma ne_append_toString (identifier : String) (n : Nat) : identifier ≠ identifier ++ toString n :=
  fun h => Naming.toString_ne_empty n (String.append_eq_left_iff.1 h.symm)

lemma candidate_injective (identifier : String) : Function.Injective (candidate identifier) := by
  intro m n h
  cases m with
  | zero => cases n with
    | zero => rfl
    | succ n => exact absurd h (ne_append_toString identifier (n + 2))
  | succ m => cases n with
    | zero => exact absurd h.symm (ne_append_toString identifier (m + 2))
    | succ n =>
      have numbers : m + 2 = n + 2 :=
        Naming.toString_injective ((String.append_right_inj identifier).1 h)
      omega

variable {r r' : Registry} {identifier key name : String}

/-- A candidate that is not allowed is owned. -/
lemma mem_owners_of_not_allows {x : String} (h : r.allows x key = false) :
    x ∈ r.owners.map Prod.fst := by
  unfold allows at h
  split at h
  · next owner ho => exact List.mem_map_of_mem (mem_of_lookup ho)
  · cases h

/-- The identifier that is chosen is free, or it belongs to these values already: there are more
candidates than identifiers with an owner. -/
lemma allows_firstAllowed : r.allows (r.firstAllowed identifier key) key = true := by
  unfold firstAllowed
  cases hc : ((List.range (r.owners.length + 1)).map (candidate identifier)).find?
      fun c => r.allows c key with
  | some x => simpa using List.find?_some hc
  | none =>
    have owned : (List.range (r.owners.length + 1)).map (candidate identifier) ⊆
        r.owners.map Prod.fst := by
      intro x hx
      exact mem_owners_of_not_allows (by simpa using List.find?_eq_none.1 hc x hx)
    have nodup := List.Nodup.map (candidate_injective identifier)
      (List.nodup_range (n := r.owners.length + 1))
    have := (List.subperm_of_subset nodup owned).length_le
    simp only [List.length_map, List.length_range] at this
    omega

/-! ### Owners -/

/-- The value key that an identifier was made for. -/
def owner? (r : Registry) (name : String) : Option String :=
  r.owners.lookup name

/-- An identifier that nobody owns, or that belongs to these values. -/
def IsFreeFor (r : Registry) (key x : String) : Prop :=
  r.owner? x = none ∨ r.owner? x = some key

lemma allows_iff {x : String} : r.allows x key = true ↔ r.IsFreeFor key x := by
  unfold allows IsFreeFor owner?
  cases r.owners.lookup x with
  | none => simp
  | some owner => simp

/-- The first candidate that these values may have is the identifier that is made. -/
lemma exists_first_candidate (r : Registry) (identifier key : String) :
    ∃ n, (r.assign identifier key).1 = candidate identifier n ∧
      r.IsFreeFor key (candidate identifier n) ∧
      ∀ m < n, ¬ r.IsFreeFor key (candidate identifier m) := by
  have found : r.allows (r.firstAllowed identifier key) key = true := allows_firstAllowed
  change ∃ n, r.firstAllowed identifier key = _ ∧ _
  unfold firstAllowed at found ⊢
  cases hf : ((List.range (r.owners.length + 1)).map (candidate identifier)).find?
      fun c => r.allows c key with
  | none =>
    -- Were all candidates taken, the first would be given, which is allowed all the same.
    rw [hf, Option.getD_none] at found
    exact ⟨0, rfl, allows_iff.1 found, by omega⟩
  | some x =>
    rw [hf, Option.getD_some] at found
    rw [List.find?_map, Option.map_eq_some_iff] at hf
    obtain ⟨n, hn, rfl⟩ := hf
    refine ⟨n, rfl, allows_iff.1 found, fun m hm => ?_⟩
    rw [← allows_iff]
    simpa using (List.find?_range_eq_some.1 hn).2.2 m hm

/-- Every identifier keeps its owner. -/
def KeepsOwners (r r' : Registry) : Prop :=
  ∀ name key, r.owner? name = some key → r'.owner? name = some key

lemma KeepsOwners.refl (r : Registry) : KeepsOwners r r :=
  fun _ _ h => h

lemma KeepsOwners.trans {r'' : Registry} (h : KeepsOwners r r') (h' : KeepsOwners r' r'') :
    KeepsOwners r r'' :=
  fun name key hn => h' name key (h name key hn)

lemma owner?_assign : (r.assign identifier key).2.owner? (r.assign identifier key).1 = some key := by
  simp [owner?, assign, lookup_setEntry]

lemma keepsOwners_assign : KeepsOwners r (r.assign identifier key).2 := by
  intro x owner hx
  simp only [owner?, assign, lookup_setEntry] at hx ⊢
  split
  · next same =>
    have allowed : r.allows (r.firstAllowed identifier key) key = true := allows_firstAllowed
    obtain rfl : x = r.firstAllowed identifier key := by simpa using same
    unfold allows at allowed
    rw [hx] at allowed
    simp only [beq_iff_eq] at allowed
    rw [allowed]
  · exact hx

lemma keepsOwners_register : KeepsOwners r (r.register key name).2 := by
  unfold register
  split <;> exact .refl _

/-- What a registration binds is the key that is registered. -/
lemma lookup?_register_cases {k x : String} (h : (r.register key name).2.lookup? k = some x) :
    r.lookup? k = some x ∨ k = key ∧ x = name := by
  rw [lookup?_register, Option.or_eq_some_iff] at h
  rcases h with h | ⟨-, h⟩
  · exact .inl h
  · split at h
    · next hk => exact .inr ⟨hk.1, by simpa using h.symm⟩
    · cases h

/-- An identifier that an enumeration has already is bound to the key of its place or to that of its
values. -/
lemma lookup?_of_known? {values : List String} {context : Option Context}
    (h : r.known? values context = some name) :
    (∃ key, contextKey? values context = some key ∧ r.lookup? key = some name) ∨
      r.lookup? (valueKey values) = some name := by
  unfold known? at h
  split at h
  · next bound hb =>
    cases h
    exact .inl (Option.bind_eq_some_iff.1 hb)
  · exact .inr h

/-! ### Answers -/

variable {P : Questions} {q q' : Question} {qs : List Question} {x : String}

/-- What a question does: the answer is bound to one of its keys and nothing changes, or it is a
name that belongs to its values from now on, and nothing is bound but its keys to that name. -/
lemma ask_cases (q : Question) (r : Registry) :
    (∃ key ∈ q.keys, r.lookup? key = some (q.ask r).1) ∧ (q.ask r).2 = r ∨
      (q.ask r).2.owner? (q.ask r).1 = some q.valueKey ∧ KeepsOwners r (q.ask r).2 ∧
        ∀ k x, (q.ask r).2.lookup? k = some x →
          r.lookup? k = some x ∨ k ∈ q.keys ∧ x = (q.ask r).1 := by
  cases q with
  | schema values s =>
    simp only [Question.ask, nameOfSchema]
    split
    · next bound hb => exact .inl ⟨⟨_, Question.mem_keys_of_schemaKey? rfl, hb⟩, rfl⟩
    · refine .inr ⟨?_, ?_, fun k x hx => ?_⟩
      · exact keepsOwners_register _ _ (keepsOwners_register _ _ owner?_assign)
      · exact keepsOwners_assign.trans (keepsOwners_register.trans keepsOwners_register)
      · rcases lookup?_register_cases hx with hx | ⟨rfl, rfl⟩
        · rcases lookup?_register_cases hx with hx | ⟨rfl, rfl⟩
          · exact .inl hx
          · exact .inr ⟨Question.mem_keys_of_schemaKey? rfl, rfl⟩
        · exact .inr ⟨Question.valueKey_mem_keys, rfl⟩
  | inline values context =>
    simp only [Question.ask]
    cases hk : r.known? values context with
    | some bound =>
      rw [nameOf_of_known? hk]
      refine .inl ⟨?_, rfl⟩
      rcases lookup?_of_known? hk with ⟨key, hc, hb⟩ | hb
      · exact ⟨key, Question.mem_keys_of_contextKey? hc, hb⟩
      · exact ⟨_, Question.valueKey_mem_keys, hb⟩
    | none =>
      right
      simp only [nameOf, hk]
      cases hc : contextKey? values context with
      | none =>
        refine ⟨keepsOwners_register _ _ owner?_assign,
          keepsOwners_assign.trans keepsOwners_register, fun k x hx => ?_⟩
        rcases lookup?_register_cases hx with hx | ⟨rfl, rfl⟩
        · exact .inl hx
        · exact .inr ⟨Question.valueKey_mem_keys, rfl⟩
      | some key =>
        refine ⟨keepsOwners_register _ _ (keepsOwners_register _ _ owner?_assign),
          keepsOwners_assign.trans (keepsOwners_register.trans keepsOwners_register),
          fun k x hx => ?_⟩
        rcases lookup?_register_cases hx with hx | ⟨rfl, rfl⟩
        · rcases lookup?_register_cases hx with hx | ⟨rfl, rfl⟩
          · exact .inl hx
          · exact .inr ⟨Question.mem_keys_of_contextKey? hc, rfl⟩
        · exact .inr ⟨Question.valueKey_mem_keys, rfl⟩

lemma keepsOwners_ask : KeepsOwners r (q.ask r).2 := by
  rcases ask_cases q r with ⟨-, same⟩ | ⟨-, kept, -⟩
  · rw [same]
    exact .refl r
  · exact kept

/-- The identifier `x` belongs to the values of a question that shares a key with `q`. -/
def OwnedLike (r : Registry) (P : Questions) (q : Question) (x : String) : Prop :=
  ∃ q', P q' ∧ (∃ key ∈ q.keys, key ∈ q'.keys) ∧ r.owner? x = some q'.valueKey

/-- Whatever a key is bound to belongs to the values of a question with that key. -/
def Owned (r : Registry) (P : Questions) : Prop :=
  ∀ key x, r.lookup? key = some x → ∃ q, P q ∧ key ∈ q.keys ∧ r.owner? x = some q.valueKey

lemma owned_fresh : Owned {} P := by
  intro key x h
  simp [lookup?] at h

/-- What a key of a question is bound to belongs to a question that shares a key. -/
lemma Owned.ownedLike {key : String} (h : Owned r P) (hk : key ∈ q.keys)
    (hx : r.lookup? key = some x) : OwnedLike r P q x := by
  obtain ⟨q', hq', hk', ho⟩ := h key x hx
  exact ⟨q', hq', ⟨key, hk, hk'⟩, ho⟩

/-- One question keeps every bound name with its owner, and the answer belongs to a question that
shares a key. -/
lemma Owned.ask (h : Owned r P) (hq : P q) :
    Owned (q.ask r).2 P ∧ OwnedLike (q.ask r).2 P q (q.ask r).1 := by
  rcases ask_cases q r with ⟨⟨key, hk, hx⟩, same⟩ | ⟨own, kept, binds⟩
  · rw [same]
    exact ⟨h, h.ownedLike hk hx⟩
  · refine ⟨fun k x hx => ?_, q, hq, ⟨_, q.valueKey_mem_keys, q.valueKey_mem_keys⟩, own⟩
    rcases binds k x hx with hx | ⟨hk, rfl⟩
    · obtain ⟨q', hq', hk', ho⟩ := h k x hx
      exact ⟨q', hq', hk', kept x _ ho⟩
    · exact ⟨q, hq, hk, own⟩

/-- Behind a run of questions every answer belongs to a question that shares a key. -/
lemma Owned.after (h : Owned r P) (asked : ∀ q ∈ qs, P q) :
    Owned (r.after qs) P ∧ KeepsOwners r (r.after qs) ∧
      ∀ q x, (q, x) ∈ r.answers qs → OwnedLike (r.after qs) P q x := by
  induction qs generalizing r with
  | nil => exact ⟨h, .refl r, by simp [answers]⟩
  | cons q rest ih =>
    obtain ⟨hq, hrest⟩ := List.forall_mem_cons.1 asked
    obtain ⟨h', own⟩ := h.ask hq
    obtain ⟨bound, kept, answered⟩ := ih h' hrest
    refine ⟨bound, keepsOwners_ask.trans kept, fun q' x hx => ?_⟩
    rcases List.mem_cons.1 hx with hx | hx
    · obtain ⟨rfl, rfl⟩ := Prod.mk.inj hx
      obtain ⟨q'', hq'', shared, ho⟩ := own
      exact ⟨q'', hq'', shared, kept _ _ ho⟩
    · exact answered q' x hx

/-- Who owns the same identifier asks for the same values. -/
lemma OwnedLike.sameValues (tell : KeysTell P) (hq : P q) (hq' : P q')
    (h : OwnedLike r P q x) (h' : OwnedLike r P q' x) : q.SameValues q' := by
  obtain ⟨p, hp, shared, ho⟩ := h
  obtain ⟨p', hp', shared', ho'⟩ := h'
  have key : p.valueKey = p'.valueKey := Option.some.inj (ho.symm.trans ho')
  have middle : p.SameValues p' :=
    tell p p' hp hp' ⟨p.valueKey, p.valueKey_mem_keys, key ▸ p'.valueKey_mem_keys⟩
  exact ((tell q p hq hp shared).trans middle).trans (tell q' p' hq' hp' shared').symm

lemma mem_of_mem_answers (h : (q, x) ∈ r.answers qs) : q ∈ qs := by
  induction qs generalizing r with
  | nil => simp [answers] at h
  | cons p rest ih =>
    rcases List.mem_cons.1 h with h | h
    · rw [(Prod.mk.inj h).1]
      exact List.mem_cons_self
    · exact List.mem_cons_of_mem p (ih h)

end Registry

/-! ### Plain values -/

/-- A value that no key confuses with something else: it is not empty, and there is no comma and no
colon in it. -/
def IsPlain (v : String) : Prop :=
  v ≠ "" ∧ ',' ∉ v.toList ∧ ':' ∉ v.toList

instance (v : String) : Decidable (IsPlain v) :=
  inferInstanceAs (Decidable (_ ∧ _))

variable {values values' : List String}

lemma toList_valueKey :
    (valueKey values).toList = [','].intercalate ((sortTexts values).map String.toList) := by
  simp [valueKey]

/-- The key of plain values comes apart into them again. -/
lemma splitOn_valueKey (plain : ∀ v ∈ values, IsPlain v) (some : values ≠ []) :
    (valueKey values).toList.splitOn ',' = (sortTexts values).map String.toList := by
  rw [toList_valueKey]
  apply List.splitOn_intercalate
  · intro l hl
    obtain ⟨v, hv, rfl⟩ := List.mem_map.1 hl
    exact (plain v (mem_sortTexts.1 hv)).2.1
  · intro nil
    obtain ⟨v, hv⟩ := List.exists_mem_of_ne_nil values some
    have := mem_sortTexts.2 hv
    rw [List.map_eq_nil_iff.1 nil] at this
    cases this

lemma valueKey_ne_empty (plain : ∀ v ∈ values, IsPlain v) (some : values ≠ []) :
    valueKey values ≠ valueKey [] := by
  intro key
  have nil := splitOn_valueKey plain some
  rw [key] at nil
  obtain ⟨v, hv⟩ := List.exists_mem_of_ne_nil values some
  have hm := List.mem_map_of_mem (f := String.toList) (mem_sortTexts.2 hv)
  rw [← nil] at hm
  exact (plain v hv).1 (by simpa [toList_valueKey, sortTexts] using hm)

/-- Plain values with the same key are the same up to their order. -/
lemma sortTexts_eq_of_valueKey_eq (plain : ∀ v ∈ values, IsPlain v)
    (plain' : ∀ v ∈ values', IsPlain v) (key : valueKey values = valueKey values') :
    sortTexts values = sortTexts values' := by
  by_cases nil : values = []
  · subst nil
    by_cases nil' : values' = []
    · rw [nil']
    · exact absurd key.symm (valueKey_ne_empty plain' nil')
  · by_cases nil' : values' = []
    · subst nil'
      exact absurd key (valueKey_ne_empty plain nil)
    · have pieces := splitOn_valueKey plain nil
      rw [key, splitOn_valueKey plain' nil'] at pieces
      exact (List.map_inj_right fun _ _ => String.toList_inj.1).1 pieces.symm

lemma mem_of_mem_intercalate {c mark : Char} : ∀ {l : List (List Char)},
    c ∈ [mark].intercalate l → c = mark ∨ ∃ s ∈ l, c ∈ s
  | [], h => by simp at h
  | [s], h => .inr ⟨s, by simp, by simpa using h⟩
  | s :: s' :: rest, h => by
    rw [List.intercalate_cons_cons, List.mem_append, List.mem_append, List.mem_singleton] at h
    rcases h with (h | h) | h
    · exact .inr ⟨s, by simp, h⟩
    · exact .inl h
    · rcases mem_of_mem_intercalate h with h | ⟨t, ht, hc⟩
      · exact .inl h
      · exact .inr ⟨t, List.mem_cons_of_mem s ht, hc⟩

lemma colon_notMem_valueKey (plain : ∀ v ∈ values, IsPlain v) : ':' ∉ (valueKey values).toList := by
  rw [toList_valueKey]
  intro h
  rcases mem_of_mem_intercalate h with h | ⟨l, hl, h⟩
  · cases h
  · obtain ⟨v, hv, rfl⟩ := List.mem_map.1 hl
    exact (plain v (mem_sortTexts.1 hv)).2.2 h

/-- What stands in front of the first colon of a key: of plain values their key, and of a schema's
key the word in front of its name. -/
def front (key : String) : List Char :=
  key.toList.takeWhile (· != ':')

lemma front_of_notMem {s : String} (h : ':' ∉ s.toList) (rest : List Char)
    (stop : rest.takeWhile (· != ':') = []) : front (s ++ String.ofList rest) = s.toList := by
  have all : ∀ c ∈ s.toList, (c != ':') = true := by
    intro c hc
    simpa using fun colon : c = ':' => h (colon ▸ hc)
  rw [front, String.toList_append, String.toList_ofList, List.takeWhile_append_of_pos all, stop,
    List.append_nil]

lemma front_schemaKey (s : String) : front (Registry.schemaKey s) = "schema".toList := by
  have word : Registry.schemaKey s = "schema" ++ String.ofList (':' :: s.toList) := by
    rw [Registry.schemaKey, ← String.toList_inj]
    simp
  rw [word]
  exact front_of_notMem (by decide) _ (by simp)

namespace Question

variable {q : Question} {key : String}

/-- The key of a place holds the key of its values in front of a colon. -/
lemma exists_of_contextKey? (h : q.contextKey? = some key) :
    ∃ parent, key = q.valueKey ++ ":" ++ parent := by
  cases q with
  | schema values s => cases h
  | inline values context =>
    cases context with
    | none => cases h
    | some c =>
      simp only [contextKey?, Registry.contextKey?, Option.ite_none_right_eq_some,
        Option.some.injEq] at h
      exact ⟨c.parent, h.2.symm⟩

lemma colon_mem_contextKey (h : q.contextKey? = some key) : ':' ∈ key.toList := by
  obtain ⟨parent, rfl⟩ := exists_of_contextKey? h
  simp

/-- A key of plain values is that of the schema that they are, or the key of the values stands in
front of its first colon. -/
lemma front_of_mem_keys (plain : ∀ v ∈ q.values, IsPlain v) (h : key ∈ q.keys) :
    (∃ values s, q = schema values s ∧ key = Registry.schemaKey s) ∨
      front key = q.valueKey.toList := by
  have colon := colon_notMem_valueKey plain
  simp only [keys, List.mem_append, Option.mem_toList, List.mem_singleton] at h
  rcases h with (h | h) | rfl
  · cases q with
    | schema values s => exact .inl ⟨values, s, rfl, (Option.some.inj h).symm⟩
    | inline values context => cases h
  · right
    obtain ⟨parent, rfl⟩ := exists_of_contextKey? h
    have parts : q.valueKey ++ ":" ++ parent = q.valueKey ++ String.ofList (':' :: parent.toList) := by
      rw [← String.toList_inj]
      simp
    rw [parts]
    exact front_of_notMem colon _ (by simp)
  · right
    simpa [Question.valueKey] using front_of_notMem colon [] rfl

end Question

/-- The keys of plain values are apart, if each schema has its values and none of them is the one
value `schema`. -/
theorem keysApart_of_plain {P : Questions} (plain : ∀ q, P q → ∀ v ∈ q.values, IsPlain v)
    (one : ∀ values values' s, P (.schema values s) → P (.schema values' s) → values = values')
    (word : ∀ q, P q → q.values ≠ ["schema"]) : KeysApart P := by
  have front_ne {q : Question} (hq : P q) {s : String} :
      front (Registry.schemaKey s) ≠ q.valueKey.toList := by
    rw [front_schemaKey]
    intro h
    have key : q.valueKey = valueKey ["schema"] := by
      rw [← String.toList_inj, ← h]
      simp [valueKey, sortTexts]
    have same := sortTexts_eq_of_valueKey_eq (plain q hq) (by decide) key
    refine word q hq (List.perm_singleton.1 ?_)
    simpa [sortTexts] using ((List.mergeSort_perm q.values _).symm.trans (.of_eq same))
  constructor
  case values =>
    rintro q q' hq hq' ⟨key, hk, hk'⟩
    rcases Question.front_of_mem_keys (plain q hq) hk with ⟨values, s, rfl, rfl⟩ | hv
    · rcases Question.front_of_mem_keys (plain q' hq') hk' with ⟨values', s', rfl, hs⟩ | hv'
      · obtain rfl : s = s' := (String.append_right_inj "schema:").1 hs
        rw [one values values' s hq hq']
      · exact absurd hv' (front_ne hq')
    · rcases Question.front_of_mem_keys (plain q' hq') hk' with ⟨values', s', rfl, rfl⟩ | hv'
      · exact absurd hv (front_ne hq)
      · exact sortTexts_eq_of_valueKey_eq (plain q hq) (plain q' hq')
          (String.toList_inj.1 (hv.symm.trans hv'))
  case places =>
    intro q q' key hq hq' hk
    constructor
    · rintro rfl
      exact colon_notMem_valueKey (plain q' hq') (Question.colon_mem_contextKey hk)
    · intro hs
      rcases Question.front_of_mem_keys (plain q hq) (Question.mem_keys_of_contextKey? hk) with
        ⟨values, s, rfl, rfl⟩ | hv
      · cases hk
      · cases q' with
        | schema values s =>
          obtain rfl := Option.some.inj hs
          exact front_ne hq hv
        | inline values context => cases hs

namespace Registry

variable {q q' : Question} {qs : List Question} {x : String}

/-- If the keys of some questions tell their values apart, a fresh registry gives two of them the
same name only if they are about the same values. -/
theorem sameValues_of_answers (tell : KeysTell (· ∈ qs)) (h : (q, x) ∈ answers {} qs)
    (h' : (q', x) ∈ answers {} qs) : q.SameValues q' := by
  obtain ⟨-, -, owned⟩ := (owned_fresh (P := (· ∈ qs))).after fun _ hq => hq
  exact (owned q x h).sameValues tell (mem_of_mem_answers h) (mem_of_mem_answers h') (owned q' x h')

/-- The questions for the states of two orders, and for the roles of a user. -/
def orderQuestions : List Question := [
  .inline ["pending", "paid"] (some ⟨"status", "Order"⟩),
  .inline ["open", "closed"] (some ⟨"status", "OrderDto"⟩),
  .schema ["admin", "member"] "Role",
  .inline ["member", "admin"] (some ⟨"role", "User"⟩)]

/-- Both orders have a state, but its values are not the same: there are two names. -/
theorem sameValues_of_orderQuestions : KeysTell (· ∈ orderQuestions) ∧
    (answers {} orderQuestions).map Prod.snd =
      ["OrderStatusEnum", "OrderStatusEnum2", "RoleEnum", "RoleEnum"] ∧
    ∀ q q' x, (q, x) ∈ answers {} orderQuestions → (q', x) ∈ answers {} orderQuestions →
      q.SameValues q' := by
  have tell : KeysTell (· ∈ orderQuestions) := by
    refine (keysApart_of_plain (by decide) ?_ (by decide)).tell
    intro values values' s h h'
    simp only [orderQuestions, List.mem_cons, Question.schema.injEq, List.not_mem_nil, reduceCtorEq,
      or_false, false_or] at h h'
    rw [h.1, h'.1]
  refine ⟨tell, ?_, fun _ _ _ h h' => sameValues_of_answers tell h h'⟩
  have states : sortTexts ["pending", "paid"] = ["paid", "pending"] := by
    simp [sortTexts, List.mergeSort, List.MergeSort.Internal.splitInTwo]
  have states' : sortTexts ["open", "closed"] = ["closed", "open"] := by
    simp [sortTexts, List.mergeSort, List.MergeSort.Internal.splitInTwo]
  have roles : sortTexts ["admin", "member"] = ["admin", "member"] := by
    simp [sortTexts, List.mergeSort, List.MergeSort.Internal.splitInTwo]
  have roles' : sortTexts ["member", "admin"] = ["admin", "member"] := by
    simp [sortTexts, List.mergeSort, List.MergeSort.Internal.splitInTwo]
  simp only [orderQuestions, answers, Question.ask, nameOf, nameOfSchema, known?, contextKey?,
    inlineIdentifier, valueKey, states, states', roles, roles']
  decide +kernel

end Registry

end ClientGen.Enumeration
