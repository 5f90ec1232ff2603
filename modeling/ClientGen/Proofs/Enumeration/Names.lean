import ClientGen.Proofs.Enumeration.Questions
import ClientGen.Proofs.Naming.Identifiers
import ClientGen.Proofs.Template.Pieces

/-!
# Names of enumerations

Which name an enumeration has where it is asked for again, how the names that the registry makes end,
and what they start with.
-/

/-!
## Names by place

An enumeration may have its name by the schema that it is, by the place where it stands or by its
values. As long as the kinds of keys are apart, a name that is found by place is found by the values
too, and so whoever asks later gets it again.
-/

namespace ClientGen.Enumeration

variable {P : Questions} {q q' : Question} {r r' : Registry} {key x y : String}

/-- The enumeration has the name `x`: one of its keys is bound to it. -/
def Question.Named (q : Question) (r : Registry) (x : String) : Prop :=
  ∃ key ∈ q.keys, r.lookup? key = some x

lemma Question.Named.mono (hle : r ≤ r') (h : q.Named r x) : q.Named r' x := by
  obtain ⟨key, hk, hx⟩ := h
  exact ⟨key, hk, hle key x hx⟩

namespace Registry

lemma le_ask : r ≤ (q.ask r).2 := by
  cases q with
  | schema values s => exact le_nameOfSchema
  | inline values context => exact le_nameOf

/-- Whoever has asked for the name of an enumeration has given it that name. -/
lemma named_ask : q.Named (q.ask r).2 (q.ask r).1 := by
  cases q with
  | schema values s => exact ⟨_, Question.mem_keys_of_schemaKey? rfl, lookup?_nameOfSchema⟩
  | inline values context =>
    simp only [Question.ask]
    cases new : r.known? values context with
    | some bound =>
      rw [nameOf_of_known? new]
      rcases lookup?_of_known? new with ⟨key, hk, hx⟩ | hx
      · exact ⟨key, Question.mem_keys_of_contextKey? hk, hx⟩
      · exact ⟨_, Question.valueKey_mem_keys, hx⟩
    | none =>
      refine ⟨ownKey values context, ?_, lookup?_nameOf_of_new new⟩
      unfold ownKey
      cases hk : contextKey? values context with
      | none => exact Question.valueKey_mem_keys (q := .inline values context)
      | some key => exact Question.mem_keys_of_contextKey? hk

/-- A new name is bound to the key of the values as well. -/
lemma lookup?_valueKey_of_new {values : List String} {context : Option Context}
    (new : r.known? values context = none) :
    (r.nameOf values context).2.lookup? (valueKey values) = some (r.nameOf values context).1 := by
  have free : r.lookup? (valueKey values) = none := by
    unfold known? at new
    split at new
    · simp at new
    · exact new
  unfold nameOf
  simp only [new]
  cases contextKey? values context with
  | none => exact lookup?_register_self free
  | some key =>
    by_cases same : valueKey values = key
    · rw [same] at free ⊢
      exact le_register _ _ (lookup?_register_self free)
    · refine lookup?_register_self ?_
      rw [lookup?_register, lookup?_assign, free]
      simp [same]

/-- Whatever is named by its place is named so by its values. -/
def Coherent (r : Registry) (P : Questions) : Prop :=
  ∀ q, P q → ∀ key x, q.contextKey? = some key → r.lookup? key = some x →
    r.lookup? q.valueKey = some x

lemma coherent_fresh : Coherent {} P := by
  intro q _ key x _ h
  simp [lookup?] at h

/-- A question binds the key of a place only together with that of the values. -/
lemma Coherent.ask (apart : KeysApart P) (h : Coherent r P) (hq : P q) :
    Coherent (q.ask r).2 P := by
  intro q' hq' key x hk hx
  by_cases old : r.lookup? key = some x
  · exact le_ask _ _ (h q' hq' key x hk old)
  · rcases ask_cases q r with ⟨-, same⟩ | ⟨-, -, binds⟩
    · rw [same] at hx
      exact absurd hx old
    · obtain ⟨mem, rfl⟩ := (binds key x hx).resolve_left old
      obtain ⟨notValue, notSchema⟩ := apart.places q' q key hq' hq hk
      simp only [Question.keys, List.mem_append, Option.mem_toList, List.mem_singleton] at mem
      have place : q.contextKey? = some key := by
        rcases mem with (mem | mem) | mem
        · exact absurd mem notSchema
        · exact mem
        · exact absurd mem notValue
      have same : q'.valueKey = q.valueKey := by
        have := apart.values q' q hq' hq
          ⟨key, Question.mem_keys_of_contextKey? hk, Question.mem_keys_of_contextKey? place⟩
        rw [Question.valueKey, Question.valueKey, valueKey, valueKey, this]
      rw [same]
      cases q with
      | schema values s => cases place
      | inline values context =>
        cases new : r.known? values context with
        | none => exact lookup?_valueKey_of_new new
        | some bound =>
          -- A name that is known already binds nothing.
          simp only [Question.ask, nameOf_of_known? new] at hx old
          exact absurd hx old

/-- The name of an enumeration inside a schema is that of its values. -/
lemma Coherent.lookup?_of_named (h : Coherent r P) {values : List String}
    {context : Option Context} (hq : P (.inline values context))
    (hx : (Question.inline values context).Named r x) : r.lookup? (valueKey values) = some x := by
  obtain ⟨key, hk, hx⟩ := hx
  simp only [Question.keys, List.mem_append, Option.mem_toList, List.mem_singleton] at hk
  rcases hk with (hk | hk) | rfl
  · cases hk
  · exact h _ hq key x hk hx
  · exact hx

/-- An enumeration inside a schema has one name. -/
lemma Coherent.named_unique (h : Coherent r P) {values : List String} {context : Option Context}
    (hq : P (.inline values context)) (hx : (Question.inline values context).Named r x)
    (hy : (Question.inline values context).Named r y) : x = y :=
  Option.some.inj ((h.lookup?_of_named hq hx).symm.trans (h.lookup?_of_named hq hy))

/-! ### Names that are the same -/

/-- Enumerations of the same name have the same values. -/
lemma Owned.sameValues (h : Owned r P) (tell : KeysTell P) (hq : P q) (hq' : P q')
    (hx : q.Named r x) (hx' : q'.Named r x) : q.SameValues q' := by
  obtain ⟨key, hk, hx⟩ := hx
  obtain ⟨key', hk', hx'⟩ := hx'
  exact (h.ownedLike hk hx).sameValues tell hq hq' (h.ownedLike hk' hx')

/-- Enumerations of the same name have the same values as often. -/
lemma Owned.sortTexts_eq (h : Owned r P) (apart : KeysApart P) (hq : P q) (hq' : P q')
    (hx : q.Named r x) (hx' : q'.Named r x) : sortTexts q.values = sortTexts q'.values := by
  obtain ⟨key, hk, hx⟩ := hx
  obtain ⟨key', hk', hx'⟩ := hx'
  obtain ⟨p, hp, shared, ho⟩ := h.ownedLike hk hx
  obtain ⟨p', hp', shared', ho'⟩ := h.ownedLike hk' hx'
  have same : p.valueKey = p'.valueKey := Option.some.inj (ho.symm.trans ho')
  calc sortTexts q.values = sortTexts p.values := apart.values q p hq hp shared
    _ = sortTexts p'.values := apart.values p p' hp hp'
        ⟨p.valueKey, p.valueKey_mem_keys, same ▸ p'.valueKey_mem_keys⟩
    _ = sortTexts q'.values := (apart.values q' p' hq' hp' shared').symm

end Registry

end ClientGen.Enumeration

/-!
## The form of names of enumerations

Every name that the registry makes ends in `Enum`, perhaps with a number behind it. A schema or a
query whose identifier does not end so is never taken for an enumeration.
-/

namespace ClientGen.Enumeration

open Text

/-- Whether an identifier ends in `Enum`, perhaps with digits behind it. -/
def isEnumName (x : String) : Bool :=
  endsWith (dropEndWhile Char.isDigit x.toList) "Enum".toList

lemma isEnumName_append (front : String) {digits : String} (h : ∀ c ∈ digits.toList, c.isDigit) :
    isEnumName (front ++ "Enum" ++ digits) = true := by
  have parts : (front ++ "Enum").toList = front.toList ++ "Enu".toList ++ ['m'] := by
    rw [String.toList_append, List.append_assoc]
    rfl
  unfold isEnumName endsWith
  rw [String.toList_append, dropEndWhile_append h, parts, dropEndWhile_of_last (by decide),
    List.isSuffixOf_iff_suffix, List.append_assoc]
  exact List.suffix_append _ _

/-- An identifier that ends in `Enum`. -/
def EndsInEnum (x : String) : Prop :=
  ∃ front, x = front ++ "Enum"

lemma isEnumName_candidate {identifier : String} (h : EndsInEnum identifier) :
    ∀ n, isEnumName (Registry.candidate identifier n) = true
  | 0 => by
    obtain ⟨front, rfl⟩ := h
    have bare : isEnumName (front ++ "Enum" ++ "") = true := isEnumName_append front (by simp)
    simpa [Registry.candidate] using bare
  | n + 1 => by
    obtain ⟨front, rfl⟩ := h
    refine isEnumName_append front fun c hc => ?_
    rw [Nat.toString_eq_ofList_toDigits, String.toList_ofList] at hc
    exact Nat.isDigit_of_mem_toDigits (by decide) (by decide) hc

lemma endsInEnum_schemaIdentifier (schema : String) : EndsInEnum (schemaIdentifier schema) := by
  unfold schemaIdentifier
  dsimp only
  split
  · next h =>
    obtain ⟨front, hf⟩ := List.isSuffixOf_iff_suffix.1 h
    refine ⟨String.ofList front, ?_⟩
    rw [← String.toList_inj, ← hf]
    simp
  · exact ⟨_, rfl⟩

lemma endsInEnum_inlineIdentifier (values : List String) (context : Option Context) :
    EndsInEnum (inlineIdentifier values context) := by
  unfold inlineIdentifier
  dsimp only
  split
  · exact ⟨_, rfl⟩
  · split
    · exact ⟨_, rfl⟩
    · split <;> exact ⟨_, rfl⟩

namespace Registry

variable {r : Registry} {q : Question} {identifier key : String}

/-- Whatever identifier is made, it is one of the candidates. -/
lemma exists_candidate_assign (r : Registry) (identifier key : String) :
    ∃ n, (r.assign identifier key).1 = candidate identifier n := by
  obtain ⟨n, hn, -⟩ := exists_first_candidate r identifier key
  exact ⟨n, hn⟩

lemma isEnumName_assign (h : EndsInEnum identifier) :
    isEnumName (r.assign identifier key).1 = true := by
  obtain ⟨n, hn⟩ := exists_candidate_assign r identifier key
  rw [hn]
  exact isEnumName_candidate h n

/-- All names have the form of names of enumerations. -/
def WellNamed (r : Registry) : Prop :=
  ∀ x, r.Binds x → isEnumName x = true

lemma wellNamed_fresh : WellNamed {} := by
  rintro x ⟨key, h⟩
  simp [lookup?] at h

/-- An answer has the form of a name of an enumeration. -/
lemma WellNamed.answer (h : WellNamed r) : isEnumName (q.ask r).1 = true := by
  cases q with
  | schema values s =>
    simp only [Question.ask, nameOfSchema]
    split
    · next bound hb => exact h bound ⟨_, hb⟩
    · exact isEnumName_assign (endsInEnum_schemaIdentifier s)
  | inline values context =>
    simp only [Question.ask, nameOf]
    split
    · next bound hb => exact h bound (binds_of_known? hb)
    · exact isEnumName_assign (endsInEnum_inlineIdentifier values context)

lemma WellNamed.ask (h : WellNamed r) : WellNamed (q.ask r).2 := by
  rintro x ⟨key, hx⟩
  rcases ask_cases q r with ⟨-, same⟩ | ⟨-, -, binds⟩
  · rw [same] at hx
    exact h x ⟨key, hx⟩
  · rcases binds key x hx with hx | ⟨-, rfl⟩
    · exact h x ⟨key, hx⟩
    · exact h.answer

end Registry

end ClientGen.Enumeration

/-!
## The first letters of names of enumerations

Every name that the registry makes starts with a letter or a digit, whatever values, properties and
schemas it is made of.
-/

namespace ClientGen.Enumeration

open Naming Text

/-- An ending is dropped only behind the first character. -/
lemma head?_dropEnding (ending : List Char) :
    ∀ s : List Char, (dropEnding ending s).head? = s.head? := by
  intro s
  induction s using dropEnding.induct ending with
  | case1 s h ih =>
    have some : s.length - ending.length ≠ 0 := Nat.sub_ne_zero_of_lt h.2.2
    rw [dropEnding, dif_pos h, ih, List.head?_take, if_neg some]
  | case2 s h => rw [dropEnding, dif_neg h]

lemma startsWord_withoutEndings {x : String} (h : StartsWord x) : StartsWord (withoutEndings x) := by
  obtain ⟨c, head, letter⟩ := h
  refine ⟨c, ?_, letter⟩
  simp only [withoutEndings, parentEndings, List.foldl_cons, List.foldl_nil, String.toList_ofList,
    head?_dropEnding]
  exact head

lemma startsWord_schemaIdentifier (schema : String) : StartsWord (schemaIdentifier schema) := by
  unfold schemaIdentifier
  dsimp only
  split
  · exact startsWord_typeIdentifier schema
  · exact (startsWord_typeIdentifier schema).append _

lemma startsWord_inlineIdentifier (values : List String) (context : Option Context) :
    StartsWord (inlineIdentifier values context) := by
  unfold inlineIdentifier
  dsimp only
  split
  · exact (startsWord_typeIdentifier _).append _
  · split
    · exact ((startsWord_withoutEndings (startsWord_typeIdentifier _)).append _).append _
    · split <;> exact (startsWord_typeIdentifier _).append _

namespace Registry

variable {r : Registry} {q : Question} {identifier key : String}

lemma startsWord_assign (h : StartsWord identifier) : StartsWord (r.assign identifier key).1 := by
  obtain ⟨n, hn⟩ := exists_candidate_assign r identifier key
  rw [hn]
  cases n with
  | zero => exact h
  | succ n => exact h.append _

/-- All names start with letters or digits. -/
def Worded (r : Registry) : Prop :=
  ∀ x, r.Binds x → StartsWord x

lemma worded_fresh : Worded {} := by
  rintro x ⟨key, h⟩
  simp [lookup?] at h

lemma Worded.answer (h : r.Worded) : StartsWord (q.ask r).1 := by
  cases q with
  | schema values s =>
    simp only [Question.ask, nameOfSchema]
    split
    · next bound hb => exact h bound ⟨_, hb⟩
    · exact startsWord_assign (startsWord_schemaIdentifier s)
  | inline values context =>
    simp only [Question.ask, nameOf]
    split
    · next bound hb => exact h bound (binds_of_known? hb)
    · exact startsWord_assign (startsWord_inlineIdentifier values context)

lemma Worded.ask (h : r.Worded) : (q.ask r).2.Worded := by
  rintro x ⟨key, hx⟩
  rcases ask_cases q r with ⟨-, same⟩ | ⟨-, -, binds⟩
  · rw [same] at hx
    exact h x ⟨key, hx⟩
  · rcases binds key x hx with hx | ⟨-, rfl⟩
    · exact h x ⟨key, hx⟩
    · exact h.answer

/-- So do the names behind any questions. -/
lemma Worded.after (h : r.Worded) (qs : List Question) : (r.after qs).Worded := by
  induction qs generalizing r with
  | nil => exact h
  | cons q rest ih => exact ih h.ask

end Registry

end ClientGen.Enumeration
