import ClientGen.Collections.Distinct
import ClientGen.Document.Shown
import ClientGen.Proofs.Json.Literals
import Mathlib.Algebra.Group.Nat.Defs

/-!
# Values that are read

The texts in a value that is read are whole, and the keys of its maps are distinct texts. Nothing
else in it is shown with a half, so that its own text is whole as well.
-/

namespace ClientGen.Json

open Document Number Text

variable {s left : List Char} {v : Value}

/-- A value as it is read from a text without halves. -/
inductive IsRead : Value → Prop
  | null : IsRead .null
  | bool (b : Bool) : IsRead (.bool b)
  | int {n : Int} : isLong n = false → IsRead (.int n)
  | float (x : Binary64) : IsRead (.float x)
  | text {t : String} : IsWhole t → IsRead (.str t)
  | list {items : List Value} : (∀ v ∈ items, IsRead v) → IsRead (.list items)
  | record {fields : List (String × Value)} : (fields.map Prod.fst).Nodup →
      (∀ f ∈ fields, IsWhole f.1) → (∀ f ∈ fields, IsRead f.2) → IsRead (.record fields)

/-! ### Scalars -/

lemma suffix_of_dropHead? : ∀ {head s left : List Char}, dropHead? head s = some left → left <:+ s
  | [], s, left, h => by
    rw [dropHead?] at h
    obtain rfl := Option.some.inj h
    exact List.suffix_refl s
  | _ :: _, [], _, h => by cases h
  | _ :: head, c :: s, left, h => by
    rw [dropHead?] at h
    split at h
    · exact (suffix_of_dropHead? h).trans (List.suffix_cons c s)
    · cases h

lemma suffix_readFraction (s : List Char) : (readFraction s).2 <:+ s := by
  unfold readFraction
  split
  · split
    · exact List.suffix_refl _
    · exact (List.dropWhile_suffix _).trans (List.suffix_cons _ _)
  · exact List.suffix_refl _

lemma suffix_readExponent (s : List Char) : (readExponent s).2 <:+ s := by
  unfold readExponent
  split
  · split
    · dsimp only
      split
      · exact List.suffix_refl _
      · refine (List.dropWhile_suffix _).trans ?_
        split
        · exact (List.suffix_cons _ _).trans (List.suffix_cons _ _)
        · exact (List.suffix_cons _ _).trans (List.suffix_cons _ _)
        · exact List.suffix_cons _ _
    · exact List.suffix_refl _
  · exact List.suffix_refl _

lemma suffix_of_readWhole? {digits : List Char} (h : readWhole? s = some (digits, left)) :
    left <:+ s := by
  unfold readWhole? at h
  split at h
  · cases h
    exact List.suffix_cons _ _
  · split at h
    · cases h
      exact List.dropWhile_suffix _
    · cases h
  · cases h

/-- A whole number has digits only. -/
lemma isDigit_of_readWhole? {digits : List Char} (h : readWhole? s = some (digits, left)) :
    ∀ c ∈ digits, c.isDigit = true := by
  unfold readWhole? at h
  split at h
  · cases h
    simp
  · split at h
    · cases h
      exact List.all_eq_true.1 List.all_takeWhile
    · cases h
  · cases h

lemma decimalValue_lt {digits : List Char} (h : ∀ c ∈ digits, c.isDigit = true) :
    decimalValue digits < 10 ^ digits.length := by
  have behind : ∀ (digits : List Char) (n : Nat), (∀ c ∈ digits, c.isDigit = true) →
      digits.foldl (fun n c => n * 10 + (c.toNat - '0'.toNat)) n < (n + 1) * 10 ^ digits.length := by
    intro digits
    induction digits with
    | nil => simp
    | cons c digits ih =>
      intro n h
      obtain ⟨hc, hs⟩ := List.forall_mem_cons.1 h
      have digit : c.toNat ≤ '0'.toNat + 9 := (Char.isDigit_iff_toNat.1 hc).2
      calc (c :: digits).foldl (fun n c => n * 10 + (c.toNat - '0'.toNat)) n
        _ < (n * 10 + (c.toNat - '0'.toNat) + 1) * 10 ^ digits.length := ih _ hs
        _ ≤ (n + 1) * 10 * 10 ^ digits.length := Nat.mul_le_mul_right _ (by omega)
        _ = (n + 1) * 10 ^ (c :: digits).length := by
          rw [List.length_cons, Nat.pow_succ, Nat.mul_assoc, Nat.mul_comm 10]
  have value := behind digits 0 h
  rwa [Nat.zero_add, Nat.one_mul] at value

lemma isRead_of_readNumber? {negative : Bool}
    (h : readNumber? negative s = some (.ok (v, left))) : IsRead v ∧ left <:+ s := by
  unfold readNumber? at h
  dsimp only at h
  split at h
  · cases h
  next digits rest whole =>
  have rest_suffix := suffix_of_readWhole? whole
  have behind := ((suffix_readExponent _).trans (suffix_readFraction rest)).trans rest_suffix
  split at h
  · split at h
    · cases Option.some.inj h
    · next short =>
      cases Option.some.inj h
      refine ⟨.int ?_, behind⟩
      have small := (decimalValue_lt (isDigit_of_readWhole? whole)).trans_le
        (Nat.pow_le_pow_right (by decide) (Nat.not_lt.1 short))
      have size : (if negative then -(decimalValue digits : Int) else decimalValue digits).natAbs =
          decimalValue digits := by
        split
        · rw [Int.natAbs_neg, Int.natAbs_natCast]
        · exact Int.natAbs_natCast _
      rwa [isLong, power, Nat.pow_eq, size, decide_eq_false_iff_not, Nat.not_le]
  · cases Option.some.inj h
    exact ⟨.float _, behind⟩

lemma isRead_of_readScalar (h : readScalar s = .ok (v, left)) : IsRead v ∧ left <:+ s := by
  unfold readScalar at h
  dsimp only at h
  split at h
  · next found named =>
    obtain rfl := Except.ok.inj h
    obtain ⟨⟨w, v⟩, word, behind⟩ := List.exists_of_findSome?_eq_some named
    obtain ⟨left, behind, same⟩ := Option.map_eq_some_iff.1 behind
    cases same
    refine ⟨?_, suffix_of_dropHead? behind⟩
    simp only [words, List.mem_cons, Prod.mk.injEq, List.not_mem_nil, or_false] at word
    obtain ⟨-, rfl⟩ | ⟨-, rfl⟩ | ⟨-, rfl⟩ | ⟨-, rfl⟩ | ⟨-, rfl⟩ | ⟨-, rfl⟩ := word
    · exact .null
    · exact .bool true
    · exact .bool false
    all_goals exact .float _
  · split at h
    · next found number =>
      subst h
      split at number
      · exact (isRead_of_readNumber? number).imp_right (·.trans (List.suffix_cons _ _))
      · exact isRead_of_readNumber? number
    · cases h

/-! ### Entries -/

/-- Entries with texts as keys. -/
def keyed (fields : List (String × Value)) : List (Value × Value) :=
  fields.map fun f => (.str f.1, f.2)

lemma insert_keyed (k : String) (v : Value) : ∀ fields : List (String × Value),
    Value.insert (.str k) v (keyed fields) = keyed (setEntry k v fields)
  | [] => rfl
  | (k', v') :: fields => by
    have same : Value.sameKey (.str k') (.str k) = (k' == k) := by rw [Value.sameKey]
    change Value.insert (.str k) v ((.str k', v') :: keyed fields) = _
    rw [Value.insert, setEntry, same, insert_keyed k v fields]
    split
    · next equal =>
      obtain rfl := eq_of_beq equal
      rfl
    · rfl

/-- Entries with texts as keys are written one after another like a table. -/
lemma ofEntries_keyed (fields : List (String × Value)) :
    Value.ofEntries (keyed fields) = keyed (tableOf fields) := by
  have written : ∀ fields table : List (String × Value),
      (keyed fields).foldl (fun acc e => Value.insert e.1 e.2 acc) (keyed table) =
        keyed (fields.foldl (fun acc e => setEntry e.1 e.2 acc) table) := by
    intro fields
    induction fields with
    | nil => exact fun _ => rfl
    | cons f fields ih =>
      intro table
      change (keyed fields).foldl _ (Value.insert (.str f.1) f.2 (keyed table)) = _
      rw [insert_keyed, ih, List.foldl_cons]
  exact written fields []

/-- Entries that are read: their keys are whole texts, and their values are read as well. -/
def AreRead (entries : List (Value × Value)) : Prop :=
  ∃ fields : List (String × Value), entries = keyed fields ∧
    (∀ f ∈ fields, IsWhole f.1) ∧ ∀ f ∈ fields, IsRead f.2

lemma isRead_map_nil : IsRead (.map []) := by
  have nodup : (([] : List (String × Value)).map Prod.fst).Nodup := List.nodup_nil
  exact .record nodup (by simp) (by simp)

lemma AreRead.isRead {entries : List (Value × Value)} (h : AreRead entries) :
    IsRead (.map (Value.ofEntries entries)) := by
  obtain ⟨fields, rfl, keys, values⟩ := h
  obtain ⟨nodup, among⟩ := tableOf_spec fields
  rw [ofEntries_keyed]
  exact .record nodup (fun f hf => keys f (among f hf)) fun f hf => values f (among f hf)

/-! ### Values -/

lemma hasNoHalf_skipSpace (h : HasNoHalf s) : HasNoHalf (skipSpace s) :=
  h.of_suffix (List.dropWhile_suffix _)

mutual

lemma isRead_of_readValue : ∀ {budget : Nat} {s left : List Char} {v : Value},
    readValue budget s = .ok (v, left) → HasNoHalf s → IsRead v ∧ HasNoHalf left
  | 0, _, _, _, h, _ => by
    rw [readValue] at h
    cases h
  | budget + 1, s, left, v, h, whole => by
    rw [readValue.eq_def] at h
    dsimp only at h
    split at h
    · obtain ⟨⟨t, left⟩, behind, h⟩ := bind_eq_ok h
      cases h
      exact (isWhole_of_readText behind whole.tail).imp_left .text
    · next rest =>
      have inside := hasNoHalf_skipSpace whole.tail
      split at h
      · next left closed =>
        cases h
        rw [closed] at inside
        exact ⟨.list (by simp), inside.tail⟩
      · obtain ⟨⟨items, left⟩, behind, h⟩ := bind_eq_ok h
        cases h
        exact (areRead_of_readItems behind inside).imp_left .list
    · next rest =>
      have inside := hasNoHalf_skipSpace whole.tail
      split at h
      · next left closed =>
        cases h
        rw [closed] at inside
        exact ⟨isRead_map_nil, inside.tail⟩
      · obtain ⟨⟨entries, left⟩, behind, h⟩ := bind_eq_ok h
        cases h
        exact (areRead_of_readEntries behind inside).imp_left AreRead.isRead
    · exact (isRead_of_readScalar h).imp_right whole.of_suffix

lemma areRead_of_readItems : ∀ {budget : Nat} {s left : List Char} {items : List Value},
    readItems budget s = .ok (items, left) → HasNoHalf s →
      (∀ v ∈ items, IsRead v) ∧ HasNoHalf left
  | 0, _, _, _, h, _ => by
    rw [readItems] at h
    cases h
  | budget + 1, s, left, items, h, whole => by
    rw [readItems] at h
    obtain ⟨⟨v, rest⟩, value, h⟩ := bind_eq_ok h
    obtain ⟨hv, rest⟩ := isRead_of_readValue value whole
    have rest := hasNoHalf_skipSpace rest
    dsimp only at h
    split at h
    · next left closed =>
      cases h
      rw [closed] at rest
      exact ⟨by simpa using hv, rest.tail⟩
    · next rest' more =>
      rw [more] at rest
      obtain ⟨⟨vs, left⟩, behind, h⟩ := bind_eq_ok h
      cases h
      obtain ⟨hvs, left⟩ := areRead_of_readItems behind (hasNoHalf_skipSpace rest.tail)
      exact ⟨List.forall_mem_cons.2 ⟨hv, hvs⟩, left⟩
    · cases h

lemma areRead_of_readEntries : ∀ {budget : Nat} {s left : List Char}
    {entries : List (Value × Value)}, readEntries budget s = .ok (entries, left) → HasNoHalf s →
      AreRead entries ∧ HasNoHalf left
  | 0, _, _, _, h, _ => by
    rw [readEntries] at h
    cases h
  | budget + 1, s, left, entries, h, whole => by
    rw [readEntries.eq_def] at h
    dsimp only at h
    split at h
    swap
    · cases h
    obtain ⟨⟨t, rest⟩, key, h⟩ := bind_eq_ok h
    obtain ⟨ht, rest⟩ := isWhole_of_readText key whole.tail
    have rest := hasNoHalf_skipSpace rest
    dsimp only at h
    split at h
    swap
    · cases h
    next rest' colon =>
    rw [colon] at rest
    obtain ⟨⟨v, rest''⟩, value, h⟩ := bind_eq_ok h
    obtain ⟨hv, rest⟩ := isRead_of_readValue value (hasNoHalf_skipSpace rest.tail)
    have rest := hasNoHalf_skipSpace rest
    dsimp only at h
    split at h
    · next left closed =>
      cases h
      rw [closed] at rest
      exact ⟨⟨[(_, v)], rfl, List.forall_mem_singleton.2 ht, List.forall_mem_singleton.2 hv⟩,
        rest.tail⟩
    · next rest' more =>
      rw [more] at rest
      obtain ⟨⟨more, left⟩, behind, h⟩ := bind_eq_ok h
      cases h
      obtain ⟨⟨fields, rfl, keys, values⟩, left⟩ :=
        areRead_of_readEntries behind (hasNoHalf_skipSpace rest.tail)
      exact ⟨⟨(_, v) :: fields, rfl, List.forall_mem_cons.2 ⟨ht, keys⟩,
        List.forall_mem_cons.2 ⟨hv, values⟩⟩, left⟩
    · cases h

end

/-- What is read from a text without halves. -/
lemma isRead_of_read {text : String} (h : Json.read text = .ok v) (whole : HasNoHalf text.toList) :
    IsRead v := by
  have value : readChars text.toList = .ok v := by
    unfold Json.read at h
    dsimp only at h
    cases form : readChars text.toList with
    | error f => rw [form] at h; cases h
    | ok w => rw [form] at h; cases h; rfl
  unfold readChars at value
  split at value
  · cases value
  · obtain ⟨⟨v, rest⟩, behind, value⟩ := bind_eq_ok value
    dsimp only at value
    split at value
    · cases value
      exact (isRead_of_readValue behind (hasNoHalf_skipSpace whole)).1
    · cases value

/-! ### What is shown -/

lemma halfMark_notMem_intercalate {sep : String} (other : halfMark ∉ sep.toList) :
    ∀ {ss : List String}, (∀ s ∈ ss, halfMark ∉ s.toList) → halfMark ∉ (sep.intercalate ss).toList
  | [], _ => by simp
  | [s], h => by simpa using h s (by simp)
  | s :: s' :: ss, h => by
    obtain ⟨hs, hss⟩ := List.forall_mem_cons.1 h
    rw [String.intercalate_cons_cons]
    simp only [String.toList_append, List.mem_append, not_or]
    exact ⟨⟨hs, other⟩, halfMark_notMem_intercalate other hss⟩

lemma halfMark_notMem_toDigits (n : Nat) : halfMark ∉ Nat.toDigits 10 n := fun mark =>
  absurd (Nat.isDigit_of_mem_toDigits (by decide) (by decide) mark) (by decide)

lemma halfMark_notMem_int (n : Int) : halfMark ∉ (toString n).toList := by
  have digits (m : Nat) : halfMark ∉ m.repr.toList := by
    rw [Nat.toList_repr]
    exact halfMark_notMem_toDigits m
  cases n with
  | ofNat m => exact digits m
  | negSucc m =>
    change halfMark ∉ ("-" ++ m.succ.repr).toList
    simp only [String.toList_append, List.mem_append, not_or]
    exact ⟨by decide, digits _⟩

lemma halfMark_notMem_significant (d : Nat) (e : Int) :
    halfMark ∉ (Binary64.significant d e).1 := by
  intro mark
  simp only [Binary64.significant, List.mem_reverse] at mark
  have among := (List.dropWhile_suffix _).subset mark
  exact halfMark_notMem_toDigits d (List.mem_reverse.1 among)

lemma halfMark_notMem_zeros (n : Nat) : halfMark ∉ List.replicate n '0' := fun mark =>
  absurd (List.eq_of_mem_replicate mark) (by decide)

lemma halfMark_notMem_positional {digits : List Char} (h : halfMark ∉ digits) (point : Int) :
    halfMark ∉ Binary64.positional digits point := by
  have zero : halfMark ≠ '0' := by decide
  have dot : halfMark ≠ '.' := by decide
  unfold Binary64.positional
  dsimp only
  split
  · simp [zero, dot, h]
  · split
    · simp [zero, dot, h]
    · simp only [List.mem_append, List.mem_cons, dot, false_or, not_or]
      exact ⟨fun mark => h (List.mem_of_mem_take mark), fun mark => h (List.mem_of_mem_drop mark)⟩

lemma halfMark_notMem_scientific {digits : List Char} (h : halfMark ∉ digits) (point : Int) :
    halfMark ∉ Binary64.scientific digits point := by
  have letter : halfMark ≠ 'e' := by decide
  have dot : halfMark ≠ '.' := by decide
  have sign (negative : Prop) [Decidable negative] :
      halfMark ≠ if negative then '-' else '+' := by
    split <;> decide
  unfold Binary64.scientific
  simp only [List.mem_append, List.mem_cons, not_or]
  refine ⟨⟨?_, letter, sign _, halfMark_notMem_zeros _⟩, halfMark_notMem_toDigits _⟩
  split
  · decide
  · exact h
  · simp only [List.mem_cons, not_or] at h ⊢
    exact ⟨h.1, dot, h.2⟩

lemma halfMark_notMem_float (x : Binary64) : halfMark ∉ x.text.toList := by
  unfold Binary64.text
  split
  · decide
  · split <;> decide
  · next negative m e =>
    have digits := halfMark_notMem_significant (Binary64.shortest m e).1
      (Binary64.shortest m e).2
    have signed {body : List Char} (h : halfMark ∉ body) :
        halfMark ∉ if negative = true then '-' :: body else body := by
      split
      · exact List.not_mem_cons_of_ne_of_not_mem (by decide) h
      · exact h
    dsimp only
    rw [String.toList_ofList]
    refine signed ?_
    split
    · decide
    · split
      · exact halfMark_notMem_positional digits _
      · exact halfMark_notMem_scientific digits _

lemma halfMark_notMem_shownNumber {mark : Char} (n : Nat) (other : halfMark ≠ mark) :
    halfMark ∉ shownNumber mark n := by
  have hex (width : Nat) {letter : Char} (h : halfMark ≠ letter) :
      halfMark ∉ '\\' :: letter :: hexDigits width n := by
    simp only [List.mem_cons, not_or]
    exact ⟨by decide, h, fun c => (isPlain_hexDigits width n _ c).ne_halfMark rfl⟩
  have short {c : Char} (h : halfMark ≠ c) : halfMark ∉ ['\\', c] := by
    simp only [List.mem_cons, List.not_mem_nil, or_false, not_or]
    exact ⟨by decide, h⟩
  unfold shownNumber
  dsimp only
  split
  · next quote =>
    refine short ?_
    rw [Bool.or_eq_true] at quote
    obtain quote | quote := quote <;> rw [eq_of_beq quote]
    · exact other
    · decide
  repeat' split
  · exact short (by decide)
  · exact short (by decide)
  · exact short (by decide)
  · next whole =>
    simp only [Bool.and_eq_true, Bool.not_eq_true'] at whole
    rw [List.mem_singleton]
    intro same
    rw [eq_toNat_of_ofNat same.symm (by decide)] at whole
    exact absurd whole.2 (by decide)
  · exact hex 2 (by decide)
  · exact hex 4 (by decide)
  · exact hex 8 (by decide)

lemma halfMark_notMem_quoted (s : String) : halfMark ∉ (quoted s).toList := by
  have quotes (double : Bool) : halfMark ≠ if double then '"' else '\'' := by
    cases double <;> decide
  rw [quoted, inQuotes, String.toList_ofList]
  simp only [List.cons_append, List.mem_cons, List.mem_append, List.mem_flatMap, List.not_mem_nil,
    or_false, not_or, not_exists, not_and]
  exact ⟨quotes _, fun n _ => halfMark_notMem_shownNumber n (quotes _), quotes _⟩

/-- The text of a value inside another one has no marks. -/
lemma IsRead.halfMark_notMem {ofPart : Nat → String} {ofKnot : List Value → Nat → String}
    (h : IsRead v) : halfMark ∉ (innerWith ofPart ofKnot v).toList := by
  induction h with
  | null => rw [innerWith]; decide
  | bool b => rw [innerWith]; cases b <;> decide
  | @int n _ => rw [innerWith]; exact halfMark_notMem_int n
  | float x => rw [innerWith]; exact halfMark_notMem_float x
  | @text t _ => rw [innerWith]; exact halfMark_notMem_quoted t
  | @list items _ ih =>
    have inner : ∀ {items : List Value},
        (∀ v ∈ items, halfMark ∉ (innerWith ofPart ofKnot v).toList) →
        ∀ s ∈ innerAllWith ofPart ofKnot items, halfMark ∉ s.toList := by
      intro items
      induction items with
      | nil => simp [innerAllWith]
      | cons v vs step =>
        intro all
        obtain ⟨hv, hvs⟩ := List.forall_mem_cons.1 all
        rw [innerAllWith]
        exact List.forall_mem_cons.2 ⟨hv, step hvs⟩
    rw [innerWith]
    simp only [String.toList_append, List.mem_append, not_or]
    exact ⟨⟨by decide, halfMark_notMem_intercalate (by decide) (inner ih)⟩, by decide⟩
  | @record fields _ _ _ ih =>
    have inner : ∀ {fields : List (String × Value)},
        (∀ f ∈ fields, halfMark ∉ (innerWith ofPart ofKnot f.2).toList) →
        ∀ s ∈ innerEntriesWith ofPart ofKnot (keyed fields), halfMark ∉ s.toList := by
      intro fields
      induction fields with
      | nil => simp [innerEntriesWith, keyed]
      | cons f fs step =>
        intro all
        obtain ⟨hf, hfs⟩ := List.forall_mem_cons.1 all
        change ∀ s ∈ innerEntriesWith ofPart ofKnot ((.str f.1, f.2) :: keyed fs), _
        rw [innerEntriesWith, innerWith]
        refine List.forall_mem_cons.2 ⟨?_, step hfs⟩
        simp only [String.toList_append, List.mem_append, not_or]
        exact ⟨⟨halfMark_notMem_quoted f.1, by decide⟩, hf⟩
    change halfMark ∉ (innerWith ofPart ofKnot (.map (keyed fields))).toList
    rw [innerWith]
    simp only [String.toList_append, List.mem_append, not_or]
    exact ⟨⟨by decide, halfMark_notMem_intercalate (by decide) (inner ih)⟩, by decide⟩

lemma isWhole_of_notMem {s : String} (h : halfMark ∉ s.toList) : IsWhole s := by
  have whole := hasNoHalf_of_notMem h
  exact ⟨whole.kept, isUnpaired_of_single fun n hn => isFirstHalf_of_whole (whole.numbers n hn)⟩

/-- A value that is read is shown as a whole text. -/
lemma IsRead.isWhole_shown (h : IsRead v) : IsWhole v.shown := by
  have inner : IsWhole v.inner := isWhole_of_notMem h.halfMark_notMem
  cases h with
  | text whole => exact whole
  | null | bool | int | float | list | record => exact inner

/-- What a value that is read has under a key is read as well. -/
lemma IsRead.get? {w : Value} {key : String} (h : IsRead v) (found : v.get? key = some w) :
    IsRead w := by
  cases h with
  | null | bool | int | float | text | list => cases found
  | @record fields _ _ values =>
    obtain ⟨e, there, rfl⟩ := Option.map_eq_some_iff.1 found
    obtain ⟨f, hf, rfl⟩ := List.mem_map.1 (List.mem_of_find?_eq_some there)
    exact values f hf

lemma IsRead.forall_get? (h : IsRead v) (key : String) : ∀ w ∈ v.get? key, IsRead w :=
  fun _ => h.get?

/-- There is no knot around a value that is read. -/
lemma IsRead.opened (h : IsRead v) : v.opened = v := by
  cases h <;> rfl

lemma IsRead.isSpent (h : IsRead v) : v.isSpent = false := by
  cases h <;> rfl

lemma IsRead.openAt? (h : IsRead v) (key : String) : v.openAt? key = v.get? key := by
  rw [Value.openAt?]
  cases found : v.get? key with
  | none => rfl
  | some w => rw [Option.map_some, (h.get? found).opened]

lemma IsRead.of_mem {items : List Value} (h : IsRead (.list items)) (hv : v ∈ items) : IsRead v := by
  cases h with
  | list all => exact all v hv

/-- The entries of a map that is read. -/
lemma IsRead.exists_fields {entries : List (Value × Value)} (h : IsRead (.map entries)) :
    ∃ fields : List (String × Value), entries = keyed fields ∧ (fields.map Prod.fst).Nodup ∧
      (∀ f ∈ fields, IsWhole f.1) ∧ ∀ f ∈ fields, IsRead f.2 := by
  generalize form : Value.map entries = v at h
  cases h with
  | @record fields nodup keys values => exact ⟨fields, Value.map.inj form, nodup, keys, values⟩
  | _ => cases form

lemma IsRead.areRead {entries : List (Value × Value)} (h : IsRead (.map entries)) :
    AreRead entries := by
  obtain ⟨fields, form, -, keys, values⟩ := h.exists_fields
  exact ⟨fields, form, keys, values⟩

lemma AreRead.of_mem {entries : List (Value × Value)} {e : Value × Value} (h : AreRead entries)
    (he : e ∈ entries) : IsRead e.1 ∧ IsRead e.2 := by
  obtain ⟨fields, rfl, keys, values⟩ := h
  obtain ⟨f, hf, rfl⟩ := List.mem_map.1 he
  exact ⟨.text (keys f hf), values f hf⟩

lemma AreRead.append {entries more : List (Value × Value)} (h : AreRead entries) (h' : AreRead more) :
    AreRead (entries ++ more) := by
  obtain ⟨fields, rfl, keys, values⟩ := h
  obtain ⟨fields', rfl, keys', values'⟩ := h'
  exact ⟨fields ++ fields', List.map_append.symm, List.forall_mem_append.2 ⟨keys, keys'⟩,
    List.forall_mem_append.2 ⟨values, values'⟩⟩

lemma IsRead.filter {entries : List (Value × Value)} (h : IsRead (.map entries))
    (p : Value × Value → Bool) : IsRead (.map (entries.filter p)) := by
  obtain ⟨fields, rfl, nodup, keys, values⟩ := h.exists_fields
  rw [keyed, List.filter_map]
  exact .record ((List.filter_sublist.map _).nodup nodup)
    (fun f hf => keys f (List.mem_of_mem_filter hf)) fun f hf => values f (List.mem_of_mem_filter hf)

/-- No integer of a value that is read has too many digits to be written. -/
lemma IsRead.longWith_eq_false {ofPart : Nat → Bool} {ofKnot : List Value → Nat → Bool}
    (h : IsRead v) : longWith ofPart ofKnot v = false := by
  induction h with
  | null | bool | float | text => rfl
  | int short => rwa [longWith]
  | @list items _ ih =>
    have inner : ∀ {items : List Value}, (∀ v ∈ items, longWith ofPart ofKnot v = false) →
        longAmong ofPart ofKnot items = false := by
      intro items
      induction items with
      | nil => exact fun _ => rfl
      | cons v vs step =>
        intro all
        obtain ⟨hv, hvs⟩ := List.forall_mem_cons.1 all
        rw [longAmong, hv, step hvs, Bool.or_false]
    rw [longWith]
    exact inner ih
  | @record fields _ _ _ ih =>
    have inner : ∀ {fields : List (String × Value)},
        (∀ f ∈ fields, longWith ofPart ofKnot f.2 = false) →
        longAmongEntries ofPart ofKnot (keyed fields) = false := by
      intro fields
      induction fields with
      | nil => exact fun _ => rfl
      | cons f fs step =>
        intro all
        obtain ⟨hf, hfs⟩ := List.forall_mem_cons.1 all
        change longAmongEntries ofPart ofKnot ((.str f.1, f.2) :: keyed fs) = false
        rw [longAmongEntries, longWith, hf, step hfs, Bool.or_false, Bool.or_false]
    change longWith ofPart ofKnot (.map (keyed fields)) = false
    rw [longWith]
    exact inner ih

/-- The text of a value that is read is written. -/
lemma IsRead.written (h : IsRead v) : v.written = .ok v.shown := by
  rw [Value.written, Value.hasLongInteger, h.longWith_eq_false, if_neg Bool.false_ne_true]

end ClientGen.Json
