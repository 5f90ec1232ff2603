import ClientGen.Proofs.Json.Values
import Mathlib.Data.List.Nodup

/-!
# Records that are read back

A record that is written on several lines is read as the same record, if its keys are distinct texts
and its values are read back themselves.
-/

namespace ClientGen.Json

open Document Number Text

variable {s rest : List Char} {v : Value} {fields : List (String × Value)} {level : Nat}

/-- A text that its literal is read as: none of its halves could start a pair. -/
abbrev IsReadable (s : String) : Prop :=
  IsMadeOf (fun n => isFirstHalf n = false) s.toList

lemma isWhole_of_readable {s : String} (h : IsReadable s) : IsWhole s :=
  ⟨h.kept, isUnpaired_of_single h.numbers⟩

/-- What stands behind a value on several lines. -/
def IsBehind (rest : List Char) : Prop :=
  ∃ c more, rest = c :: more ∧ (c = ',' ∨ c = '\n')

/-- The characters are plain, start with no white space, and are read as the value, wherever a comma
or the end of the line follows. -/
structure ReadsAs (s : List Char) (v : Value) : Prop where
  plain : ∀ c ∈ s, IsPlain c
  head : ∃ c more, s = c :: more ∧ isSpace c = false
  reads : ∀ budget, s.length ≤ budget → ∀ rest, IsBehind rest →
    readValue budget (s ++ rest) = .ok (v, rest)

/-! ### White space -/

lemma skipSpace_of_head {c : Char} (h : isSpace c = false) : skipSpace (c :: s) = c :: s := by
  rw [skipSpace, List.dropWhile_cons, if_neg (by simp [h])]

lemma toList_lineStart : (lineStart level).toList = '\n' :: List.replicate (2 * level) ' ' := by
  simp [lineStart]

lemma skipSpace_lineStart {c : Char} (h : isSpace c = false) :
    skipSpace ((lineStart level).toList ++ c :: s) = c :: s := by
  have spaces : ∀ n, skipSpace (List.replicate n ' ' ++ c :: s) = c :: s := by
    intro n
    induction n with
    | zero => exact skipSpace_of_head h
    | succ n ih => exact ih
  rw [toList_lineStart]
  exact spaces (2 * level)

lemma ReadsAs.skipSpace (h : ReadsAs s v) (rest : List Char) :
    skipSpace (' ' :: (s ++ rest)) = s ++ rest := by
  obtain ⟨c, more, rfl, hc⟩ := h.head
  exact skipSpace_of_head hc

/-! ### Scalars -/

/-- A plain text is readable. -/
lemma isReadable_of_plain {s : String} (h : ∀ c ∈ s.toList, IsPlain c) : IsReadable s := by
  refine ⟨kept_of_plain h, fun n hn => ?_⟩
  rw [numbers_of_plain h] at hn
  obtain ⟨c, hc, rfl⟩ := List.mem_map.1 hn
  have := (h c hc).lt
  simp only [isFirstHalf, Bool.and_eq_false_iff, decide_eq_false_iff_not]
  omega

lemma toList_quoteAscii (s : String) : (quoteAscii s).toList =
    '"' :: ((numbers s.toList).flatMap (escaped true) ++ ['"']) := by
  rw [quoteAscii, String.toList_ofList]
  rfl

lemma isPlain_quoteAscii (s : String) : ∀ c ∈ (quoteAscii s).toList, IsPlain c := by
  rw [toList_quoteAscii]
  refine List.forall_mem_cons.2 ⟨by decide, List.forall_mem_append.2
    ⟨fun c hc => ?_, isPlain_of_all (by decide)⟩⟩
  obtain ⟨n, -, hc⟩ := List.mem_flatMap.1 hc
  exact isPlain_escaped n c hc

/-- The literal of a text is read as the text, whatever stands behind it. -/
lemma readValue_text {t : String} (h : IsWhole t) (budget : Nat) (rest : List Char) :
    readValue (budget + 1) ((quoteAscii t).toList ++ rest) = .ok (.str t, rest) := by
  rw [toList_quoteAscii, List.cons_append, List.append_assoc, List.singleton_append, readValue,
    readText_literal h.kept fun _ => h.unpaired]
  simp only [bind, Except.bind, String.ofList_toList]

/-- A text is read back. -/
lemma readsAs_text {t : String} (h : IsWhole t) : ReadsAs (quoteAscii t).toList (.str t) := by
  refine ⟨isPlain_quoteAscii t, ⟨_, _, toList_quoteAscii t, rfl⟩, fun budget small rest _ => ?_⟩
  obtain ⟨budget, rfl⟩ : ∃ n, budget = n + 1 := Nat.exists_eq_succ_of_ne_zero (by
    rintro rfl
    simp [toList_quoteAscii] at small)
  exact readValue_text h budget rest

/-! ### Numbers -/

/-- Only the digits of zero start with a zero. -/
lemma eq_zero_of_toDigits {n : Nat} {ds : List Char} (h : Nat.toDigits 10 n = '0' :: ds) :
    n = 0 := by
  induction n using Nat.strongRecOn generalizing ds with
  | ind n ih =>
    by_cases small : n < 10
    · rw [Nat.toDigits_of_lt_base small] at h
      have digit : ∀ m < 10, Nat.digitChar m = '0' → m = 0 := by decide
      exact digit n small (List.cons.inj h).1
    · rw [Nat.toDigits_of_base_le (by decide) (by omega)] at h
      cases front : Nat.toDigits 10 (n / 10) with
      | nil => exact absurd front Nat.toDigits_ne_nil
      | cons d more =>
        rw [front, List.cons_append] at h
        have := ih (n / 10) (by omega) ((List.cons.inj h).1 ▸ front)
        omega

/-- The digits of a number are read as the number. -/
lemma decimalValue_toDigits (n : Nat) : decimalValue (Nat.toDigits 10 n) = n := by
  have same : decimalValue (Nat.toDigits 10 n) = Nat.ofDigitChars 10 (Nat.toDigits 10 n) 0 := by
    unfold decimalValue Nat.ofDigitChars
    simp only [Nat.mul_comm]
  rw [same, Nat.ofDigitChars_toDigits (by decide) (by decide)]

/-- The digits of a number are taken off, as long as no digit stands behind them. -/
lemma readWhole?_toDigits (n : Nat) (behind : rest.takeWhile Char.isDigit = []) :
    readWhole? (Nat.toDigits 10 n ++ rest) = some (Nat.toDigits 10 n, rest) := by
  have digits : ∀ c ∈ Nat.toDigits 10 n, c.isDigit = true := fun c =>
    Nat.isDigit_of_mem_toDigits (by decide) (by decide)
  have left : rest.dropWhile Char.isDigit = rest := by
    rw [← List.nil_append (rest.dropWhile _), ← behind, List.takeWhile_append_dropWhile]
  cases form : Nat.toDigits 10 n with
  | nil => exact absurd form Nat.toDigits_ne_nil
  | cons c ds =>
    rw [form] at digits
    rw [List.cons_append, readWhole?.eq_def]
    split
    · next more same =>
      obtain ⟨rfl, rfl⟩ := List.cons.inj same
      obtain rfl := eq_zero_of_toDigits form
      obtain rfl := (List.cons.inj form).2
      rfl
    · next d more _ same =>
      obtain ⟨rfl, rfl⟩ := List.cons.inj same
      rw [if_pos (digits c List.mem_cons_self), ← List.cons_append,
        List.takeWhile_append_of_pos digits, List.dropWhile_append_of_pos digits, behind, left,
        List.append_nil]
    · next same => cases same

/-- A number is not too long if its digits are not too many. -/
lemma isLong_eq_false {n : Nat} :
    isLong n = false ↔ (Nat.toDigits 10 n).length ≤ greatestDigits := by
  rw [isLong, power, Nat.pow_eq, Int.natAbs_natCast, decide_eq_false_iff_not, Nat.not_le]
  exact (Nat.length_toDigits_le_iff (by decide) (by decide)).symm

lemma readNumber?_toDigits {n : Nat} (short : isLong n = false) (behind : IsBehind rest) :
    readNumber? false (Nat.toDigits 10 n ++ rest) = some (.ok (.int n, rest)) := by
  have length := Nat.not_lt.2 (isLong_eq_false.1 short)
  obtain ⟨none, fraction, exponent⟩ : rest.takeWhile Char.isDigit = [] ∧
      readFraction rest = (none, rest) ∧ readExponent rest = (none, rest) := by
    obtain ⟨c, more, rfl, rfl | rfl⟩ := behind <;> exact ⟨rfl, rfl, rfl⟩
  unfold readNumber?
  simp only [readWhole?_toDigits n none, fraction, exponent, decimalValue_toDigits]
  rw [if_neg length, if_neg Bool.false_ne_true]

lemma ne_of_isDigit {c d : Char} (hc : c.isDigit = true) (hd : d.isDigit = false) : c ≠ d := by
  rintro rfl
  simp [hc] at hd

/-- What starts with a digit is read as a number. -/
lemma readScalar_of_digit {c : Char} (h : c.isDigit = true) :
    readScalar (c :: s) = (readNumber? false (c :: s)).getD (.error (.at .valueExpected (c :: s))) := by
  have heads : ∀ e ∈ words, ∃ d more, e.1 = d :: more ∧ d.isDigit = false := by
    refine List.forall_mem_cons.2 ⟨⟨_, _, rfl, rfl⟩, List.forall_mem_cons.2 ⟨⟨_, _, rfl, rfl⟩,
      List.forall_mem_cons.2 ⟨⟨_, _, rfl, rfl⟩, List.forall_mem_cons.2 ⟨⟨_, _, rfl, rfl⟩,
        List.forall_mem_cons.2 ⟨⟨_, _, rfl, rfl⟩, List.forall_mem_cons.2 ⟨⟨_, _, rfl, rfl⟩,
          List.forall_mem_nil _⟩⟩⟩⟩⟩⟩
  rw [readScalar, List.findSome?_eq_none_iff.2 ?_]
  · dsimp only
    cases readNumber? false (c :: s) <;> rfl
  · rintro ⟨w, v⟩ he
    obtain ⟨d, more, form, hd⟩ := heads _ he
    dsimp only at form ⊢
    rw [form, dropHead?, if_neg (by simpa using (ne_of_isDigit h hd).symm), Option.map_none]
  · exact fun _ same => ne_of_isDigit h (by decide) (List.cons.inj same).1

/-- A number with not too many digits is read back. -/
lemma readsAs_nat {n : Nat} (short : isLong n = false) : ReadsAs (Nat.toDigits 10 n) (.int n) := by
  have digits : ∀ c ∈ Nat.toDigits 10 n, c.isDigit = true := fun c =>
    Nat.isDigit_of_mem_toDigits (by decide) (by decide)
  obtain ⟨c, ds, form⟩ := List.exists_cons_of_ne_nil (Nat.toDigits_ne_nil (n := n) (b := 10))
  have digit : c.isDigit = true := digits c (form ▸ List.mem_cons_self)
  refine ⟨fun d hd => ?_, ⟨c, ds, form, ?_⟩, fun budget small rest behind => ?_⟩
  · have range := Char.isDigit_iff_toNat.1 (digits d hd)
    rw [show '0'.toNat = 48 from rfl, show '9'.toNat = 57 from rfl] at range
    exact .inr (by omega)
  · simp only [isSpace, Bool.or_eq_false_iff, beq_eq_false_iff_ne]
    exact ⟨⟨⟨ne_of_isDigit digit (by decide), ne_of_isDigit digit (by decide)⟩,
      ne_of_isDigit digit (by decide)⟩, ne_of_isDigit digit (by decide)⟩
  · obtain ⟨budget, rfl⟩ : ∃ n, budget = n + 1 := Nat.exists_eq_succ_of_ne_zero (by
      rintro rfl
      simp [form] at small)
    have number := readNumber?_toDigits short behind
    rw [form, List.cons_append] at number ⊢
    rw [readValue, readScalar_of_digit digit, number, Option.getD_some]
    · exact fun _ same => ne_of_isDigit digit (by decide) (List.cons.inj same).1
    · exact fun _ same => ne_of_isDigit digit (by decide) (List.cons.inj same).1
    · exact fun _ same => ne_of_isDigit digit (by decide) (List.cons.inj same).1

/-! ### Records -/

/-- The characters of an entry. -/
def entryChars (k : String) (s : List Char) : List Char :=
  (quoteAscii k).toList ++ ':' :: ' ' :: s

/-- An entry is read, whatever stands behind it. -/
lemma readEntries_entry {k : String} (hk : IsWhole k) (hs : ReadsAs s v) {budget : Nat}
    (enough : (entryChars k s).length ≤ budget + 1) (behind : IsBehind rest) :
    readEntries (budget + 1) (entryChars k s ++ rest) =
      match skipSpace rest with
      | '\x7d' :: left => .ok ([(.str k, v)], left)
      | ',' :: rest => do
        let (more, left) ← readEntries budget (skipSpace rest)
        .ok ((.str k, v) :: more, left)
      | rest => .error (.at .commaExpected rest) := by
  have size : s.length ≤ budget := by
    simp only [entryChars, toList_quoteAscii, List.length_append, List.length_cons] at enough
    omega
  rw [entryChars, toList_quoteAscii]
  simp only [List.cons_append, List.append_assoc, List.nil_append]
  rw [readEntries, readText_literal hk.kept fun _ => hk.unpaired]
  simp only [bind, Except.bind]
  rw [skipSpace_of_head (by rfl)]
  simp only [hs.skipSpace, hs.reads budget size rest behind, String.ofList_toList]
  all_goals rfl

/-- The lines of some entries, without the space in front of the first one. -/
def entryLines (level : Nat) (fields : List (String × Value)) : List Char :=
  (',' :: (lineStart level).toList).intercalate
    (fields.map fun f => entryChars f.1 (writeAt Style.block level f.2).toList)

lemma exists_entryLines_cons (level : Nat) (f : String × Value)
    (fields : List (String × Value)) :
    ∃ t, entryLines level (f :: fields) = '"' :: t := by
  unfold entryLines
  cases fields with
  | nil => exact ⟨_, by rw [List.map_cons, List.map_nil, List.intercalate_singleton, entryChars,
      toList_quoteAscii]; rfl⟩
  | cons g rest => exact ⟨_, by rw [List.map_cons, List.map_cons, List.intercalate_cons_cons,
      entryChars, toList_quoteAscii]; rfl⟩

lemma isBehind_lineStart (s : List Char) : IsBehind ((lineStart level).toList ++ s) := by
  rw [toList_lineStart]
  exact ⟨_, _, rfl, .inr rfl⟩

lemma entryLines_cons (f g : String × Value) (fields : List (String × Value)) :
    entryLines level (f :: g :: fields) =
      entryChars f.1 (writeAt Style.block level f.2).toList ++
        (',' :: (lineStart level).toList) ++ entryLines level (g :: fields) :=
  List.intercalate_cons_cons ..

lemma entryLines_singleton (f : String × Value) :
    entryLines level [f] = entryChars f.1 (writeAt Style.block level f.2).toList :=
  List.intercalate_singleton ..

lemma entryLines_pos (f : String × Value) (fields : List (String × Value)) :
    0 < (entryLines level (f :: fields)).length := by
  obtain ⟨t, form⟩ := exists_entryLines_cons level f fields
  simp [form]

lemma isPlain_lineStart : ∀ c ∈ (lineStart level).toList, IsPlain c := by
  rw [toList_lineStart]
  exact List.forall_mem_cons.2 ⟨by decide, fun c hc => List.eq_of_mem_replicate hc ▸ by decide⟩

lemma isPlain_entryChars {k : String} (h : ∀ c ∈ s, IsPlain c) : ∀ c ∈ entryChars k s, IsPlain c :=
  List.forall_mem_append.2 ⟨isPlain_quoteAscii k,
    List.forall_mem_cons.2 ⟨by decide, List.forall_mem_cons.2 ⟨by decide, h⟩⟩⟩

lemma isPlain_entryLines
    (h : ∀ e ∈ fields, ∀ c ∈ (writeAt Style.block level e.2).toList, IsPlain c) :
    ∀ c ∈ entryLines level fields, IsPlain c := by
  induction fields with
  | nil => simp [entryLines]
  | cons f fields ih =>
    obtain ⟨hf, more⟩ := List.forall_mem_cons.1 h
    cases fields with
    | nil =>
      rw [entryLines_singleton]
      exact isPlain_entryChars hf
    | cons g fields =>
      rw [entryLines_cons]
      exact List.forall_mem_append.2 ⟨List.forall_mem_append.2 ⟨isPlain_entryChars hf,
        List.forall_mem_cons.2 ⟨by decide, isPlain_lineStart⟩⟩, ih more⟩

/-- The entries of a record are read up to the closing brace. -/
lemma readEntries_record (outer : Nat) (f : String × Value) (fields : List (String × Value))
    (readable : ∀ e ∈ f :: fields,
      IsWhole e.1 ∧ ReadsAs (writeAt Style.block level e.2).toList e.2) (budget : Nat)
    (enough : (entryLines level (f :: fields)).length ≤ budget) (rest : List Char) :
    readEntries budget
        (entryLines level (f :: fields) ++ ((lineStart outer).toList ++ '\x7d' :: rest)) =
      .ok ((f :: fields).map fun e => (.str e.1, e.2), rest) := by
  induction fields generalizing f budget with
  | nil =>
    obtain ⟨key, value⟩ := readable f (by simp)
    obtain ⟨budget, rfl⟩ := Nat.exists_eq_add_one.2 (Nat.lt_of_lt_of_le (entryLines_pos f []) enough)
    rw [entryLines_singleton] at enough ⊢
    rw [readEntries_entry key value enough (isBehind_lineStart _), skipSpace_lineStart (by rfl)]
    rfl
  | cons g fields ih =>
    obtain ⟨⟨key, value⟩, others⟩ := List.forall_mem_cons.1 readable
    obtain ⟨budget, rfl⟩ := Nat.exists_eq_add_one.2 (Nat.lt_of_lt_of_le (entryLines_pos f _) enough)
    rw [entryLines_cons] at enough ⊢
    simp only [List.length_append, List.length_cons] at enough
    have more := ih g others budget (by omega)
    obtain ⟨t, form⟩ := exists_entryLines_cons level g fields
    rw [form] at more ⊢
    have size : (entryChars f.1 (writeAt Style.block level f.2).toList).length ≤ budget + 1 := by
      omega
    simp only [List.append_assoc, List.cons_append] at more ⊢
    rw [readEntries_entry key value size ⟨_, _, rfl, .inl rfl⟩, skipSpace_of_head (by rfl)]
    simp only [skipSpace_lineStart (c := '"') (by rfl), more]
    rfl

/-- Distinct texts stay apart as keys. -/
lemma ofEntries_texts (nodup : (fields.map Prod.fst).Nodup) :
    Value.ofEntries (keyed fields) = keyed fields := by
  rw [ofEntries_keyed, tableOf_of_nodup nodup]

lemma writeEntries_record (style : Style) (fields : List (String × Value)) :
    writeEntries style level (fields.map fun e => (Value.str e.1, e.2)) =
      fields.map fun e => style.quote e.1 ++ ": " ++ writeAt style level e.2 := by
  induction fields with
  | nil => rfl
  | cons f fields ih => rw [List.map_cons, writeEntries, ih, keyText]; rfl

lemma toList_write_record (f : String × Value) (fields : List (String × Value)) :
    (writeAt Style.block level (.record (f :: fields))).toList =
      '\x7b' :: ((lineStart (level + 1)).toList ++ (entryLines (level + 1) (f :: fields) ++
        ((lineStart level).toList ++ ['\x7d']))) := by
  have part (e : String × Value) :
      (Style.block.quote e.1 ++ ": " ++ writeAt Style.block (level + 1) e.2).toList =
        entryChars e.1 (writeAt Style.block (level + 1) e.2).toList := by
    simp only [String.toList_append, entryChars, List.append_assoc]
    rfl
  rw [Value.record, writeAt, writeEntries_record, Style.bracketed, if_neg (by simp),
    if_pos (by rfl)]
  simp only [String.toList_append, String.toList_intercalate, List.map_map, entryLines,
    Function.comp_def, part, List.append_assoc]
  rfl

lemma toList_write_nil (level : Nat) :
    (writeAt Style.block level (.record [])).toList = ['\x7b', '\x7d'] := by
  rw [Value.record, List.map_nil, writeAt, writeEntries, Style.bracketed, if_pos (by rfl),
    String.toList_append]
  rfl

/-- A record on several lines is read, whatever stands behind it. -/
lemma readValue_record (nodup : (fields.map Prod.fst).Nodup)
    (readable : ∀ e ∈ fields,
      IsWhole e.1 ∧ ReadsAs (writeAt Style.block (level + 1) e.2).toList e.2) (budget : Nat)
    (enough : (writeAt Style.block level (.record fields)).toList.length ≤ budget)
    (rest : List Char) :
    readValue budget ((writeAt Style.block level (.record fields)).toList ++ rest) =
      .ok (.record fields, rest) := by
  cases fields with
  | nil =>
    rw [toList_write_nil] at enough ⊢
    obtain ⟨budget, rfl⟩ := Nat.exists_eq_add_one.2 (Nat.lt_of_lt_of_le (Nat.succ_pos _) enough)
    rfl
  | cons f fields =>
    rw [toList_write_record] at enough ⊢
    simp only [List.length_cons, List.length_append] at enough
    obtain ⟨budget, rfl⟩ := Nat.exists_eq_add_one.2 (Nat.lt_of_lt_of_le (Nat.succ_pos _) enough)
    have entries := readEntries_record level f fields readable budget (by omega) rest
    obtain ⟨t, form⟩ := exists_entryLines_cons (level + 1) f fields
    rw [form] at entries ⊢
    simp only [List.cons_append, List.append_assoc, List.nil_append] at entries ⊢
    rw [readValue, skipSpace_lineStart (by rfl)]
    change (readEntries budget _ >>= fun e => Except.ok (Value.map (Value.ofEntries e.1), e.2)) = _
    rw [entries]
    change Except.ok (Value.map (Value.ofEntries (keyed (f :: fields))), rest) = _
    rw [ofEntries_texts nodup]
    rfl

/-- A record on several lines is read back. -/
lemma readsAs_record (nodup : (fields.map Prod.fst).Nodup)
    (readable : ∀ e ∈ fields,
      IsWhole e.1 ∧ ReadsAs (writeAt Style.block (level + 1) e.2).toList e.2) :
    ReadsAs (writeAt Style.block level (.record fields)).toList (.record fields) where
  plain := by
    cases fields with
    | nil =>
      rw [toList_write_nil]
      exact isPlain_of_all (by decide)
    | cons f fields =>
      rw [toList_write_record]
      exact List.forall_mem_cons.2 ⟨by decide, List.forall_mem_append.2 ⟨isPlain_lineStart,
        List.forall_mem_append.2 ⟨isPlain_entryLines fun e he => (readable e he).2.plain,
          List.forall_mem_append.2 ⟨isPlain_lineStart, isPlain_of_all (by decide)⟩⟩⟩⟩
  head := by
    cases fields with
    | nil => exact ⟨_, _, toList_write_nil level, rfl⟩
    | cons f fields => exact ⟨_, _, toList_write_record f fields, rfl⟩
  reads budget small rest _ := readValue_record nodup readable budget small rest

/-- A text whose value is read up to some white space is read as the value. -/
lemma read_of_readValue {text behind : String} (plain : ∀ c ∈ text.toList, IsPlain c)
    (head : ∃ c more, text.toList = c :: more ∧ isSpace c = false)
    (space : skipSpace behind.toList = [])
    (value : readValue ((text.toList ++ behind.toList).length + 1) (text.toList ++ behind.toList) =
      .ok (v, behind.toList)) : Json.read (text ++ behind) = .ok v := by
  obtain ⟨c, more, form, start⟩ := head
  have mark : c ≠ '\ufeff' := by
    rintro rfl
    exact absurd (plain '\ufeff' (form ▸ List.mem_cons_self)) (by decide)
  rw [form] at value
  have whole : readChars (c :: more ++ behind.toList) = .ok v := by
    rw [List.cons_append] at value ⊢
    rw [readChars, skipSpace_of_head start]
    · simp only [value, bind, Except.bind, space]
    · rintro rest same
      exact mark (List.cons.inj same).1
  rw [Json.read, String.toList_append, form]
  change Except.mapError _ (readChars (c :: more ++ behind.toList)) = _
  rw [whole]
  rfl

/-- A value on several lines is read back where the text ends with its last line. -/
lemma ReadsAs.read {text : String} (h : ReadsAs text.toList v) :
    Json.read (text ++ "\n") = .ok v :=
  read_of_readValue h.plain h.head rfl (h.reads _ (by simp; omega) _ ⟨_, _, rfl, .inr rfl⟩)

/-- A text that makes up a whole text is read back. -/
lemma read_quoteAscii {t : String} (h : IsWhole t) : Json.read (quoteAscii t) = .ok (.str t) := by
  have reads := readsAs_text h
  have none : skipSpace "".toList = [] := rfl
  have read := read_of_readValue reads.plain reads.head none (readValue_text h _ _)
  rwa [String.append_empty] at read

/-- A record that makes up a whole text is read back. -/
lemma read_record (nodup : (fields.map Prod.fst).Nodup)
    (readable : ∀ e ∈ fields, IsWhole e.1 ∧ ReadsAs (writeAt Style.block 1 e.2).toList e.2) :
    Json.read (write Style.block (.record fields)) = .ok (.record fields) := by
  have reads := readsAs_record nodup readable
  have none : skipSpace "".toList = [] := rfl
  have read := read_of_readValue reads.plain reads.head none
    (readValue_record nodup readable _ (by simp) _)
  rwa [String.append_empty] at read

end ClientGen.Json
