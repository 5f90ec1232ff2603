import ClientGen.Json.Reader
import ClientGen.Json.Writer
import ClientGen.Proofs.Collections
import ClientGen.Proofs.Text.Kept
import Mathlib.Data.List.Chain

/-!
# Literals of texts

The literal that a text is written as is read back as that text, unless it is written within ASCII and
two of its halves in a row would be read as a pair. A text without first halves of pairs has none. The literal itself is plain.
-/

namespace ClientGen.Json

open Number Text

variable {s rest : List Char} {n start : Nat}

/-- A first half of a pair. -/
def isFirstHalf (n : Nat) : Bool :=
  0xD800 ≤ n && n < 0xDC00

/-- A second half of a pair. -/
def isSecondHalf (n : Nat) : Bool :=
  0xDC00 ≤ n && n < 0xE000

/-- No two halves in a row are a pair. -/
def IsUnpaired (ns : List Nat) : Prop :=
  ns.IsChain fun a b => ¬(isFirstHalf a = true ∧ isSecondHalf b = true)

/-- A text that its literal is read as: no two of its halves are a pair. -/
structure IsWhole (s : String) : Prop where
  kept : Kept s.toList
  unpaired : IsUnpaired (numbers s.toList)

lemma isUnpaired_cons {ns : List Nat} : IsUnpaired (n :: ns) ↔
    (isFirstHalf n = true → ∀ m ∈ ns.head?, isSecondHalf m = false) ∧ IsUnpaired ns := by
  unfold IsUnpaired
  rw [List.isChain_cons]
  refine and_congr_left fun _ => ?_
  constructor
  · exact fun h first m hm => Bool.eq_false_iff.2 fun second => h m hm ⟨first, second⟩
  · exact fun h m hm pair => Bool.eq_false_iff.1 (h pair.1 m hm) pair.2

lemma isUnpaired_of_single {ns : List Nat} (h : ∀ n ∈ ns, isFirstHalf n = false) :
    IsUnpaired ns := by
  induction ns with
  | nil => exact .nil
  | cons n ns ih =>
    obtain ⟨hn, hns⟩ := List.forall_mem_cons.1 h
    exact isUnpaired_cons.2 ⟨fun first => absurd (hn ▸ first) Bool.false_ne_true, ih hns⟩

/-! ### Digits in base sixteen -/

lemma hexValue?_digitChar : ∀ d < 16, hexValue? (Nat.digitChar d) = some d := by
  decide

/-- The last digit comes behind the others. -/
lemma hexDigits_succ {width : Nat} (some : 1 ≤ width) (n : Nat) :
    hexDigits (width + 1) n = hexDigits width (n / 16) ++ [Nat.digitChar (n % 16)] := by
  unfold hexDigits
  by_cases small : n < 16
  · have zeros : List.replicate width '0' = List.replicate (width - 1) '0' ++ ['0'] := by
      rw [← List.replicate_succ', Nat.sub_add_cancel some]
    rw [Nat.toDigits_of_lt_base small, Nat.div_eq_of_lt small, Nat.mod_eq_of_lt small,
      Nat.toDigits_zero]
    simp only [List.length_singleton, Nat.add_sub_cancel]
    rw [zeros]
  · rw [Nat.toDigits_of_base_le (by decide) (by omega)]
    simp [Nat.add_sub_add_right]

/-- The four digits of a number below 65536. -/
lemma hexDigits_four (small : n < 0x10000) : hexDigits 4 n =
    [Nat.digitChar (n / 16 / 16 / 16), Nat.digitChar (n / 16 / 16 % 16),
      Nat.digitChar (n / 16 % 16), Nat.digitChar (n % 16)] := by
  rw [hexDigits_succ (by decide), hexDigits_succ (by decide), hexDigits_succ (by decide), hexDigits,
    Nat.toDigits_of_lt_base (by omega)]
  rfl

lemma hexFour?_hexDigits (small : n < 0x10000) : hexFour? (hexDigits 4 n) = some n := by
  have value (d : Nat) (hd : d < 16) := hexValue?_digitChar d hd
  rw [hexDigits_four small]
  simp only [hexFour?, value (n / 16 / 16 / 16) (by omega), value (n / 16 / 16 % 16) (by omega),
    value (n / 16 % 16) (by omega), value (n % 16) (by omega)]
  congr 1
  omega

/-! ### Escapes -/

/-- What reading goes on with behind the character or the half of a number. -/
def continued (n : Nat) (r : Except Fault (List Char × List Char)) :
    Except Fault (List Char × List Char) :=
  r.map fun p => (ofNumber n ++ p.1, p.2)

/-- The characters do not start with the escape of a second half. -/
def StartsNoSecond (s : List Char) : Prop :=
  ∀ a b c d e rest, s = '\\' :: 'u' :: a :: b :: c :: d :: e :: rest →
    ∃ n, hexFour? [a, b, c, d] = some n ∧ isSecondHalf n = false

/-- The escape of one unit that starts no pair. -/
lemma readText_unit {a b c d : Char} (value : hexFour? [a, b, c, d] = some n)
    (single : isFirstHalf n = true → StartsNoSecond rest) (some : rest ≠ []) :
    readText start ('\\' :: 'u' :: a :: b :: c :: d :: rest) =
      continued n (readText start rest) := by
  by_cases next : ∃ e f g h i more, rest = '\\' :: 'u' :: e :: f :: g :: h :: i :: more
  · obtain ⟨e, f, g, h, i, more, rfl⟩ := next
    rw [readText, value]
    dsimp only
    split
    · next first =>
      obtain ⟨m, value', second⟩ := single (by simpa [isFirstHalf] using first) _ _ _ _ _ _ rfl
      rw [value']
      dsimp only
      rw [if_neg (by simpa [isSecondHalf] using second)]
      rfl
    · rfl
  · obtain ⟨e, rest, rfl⟩ := List.exists_cons_of_ne_nil some
    rw [readText, value]
    · rfl
    · rintro e f g h i more rfl rfl
      exact next ⟨_, _, _, _, _, _, rfl⟩

/-- The escapes of a pair. -/
lemma readText_pair (start : Nat) {a b c d e f g h : Char} {m : Nat}
    (first : hexFour? [a, b, c, d] = some n)
    (second : hexFour? [e, f, g, h] = some m) (hn : 0xD800 ≤ n ∧ n < 0xDC00)
    (hm : 0xDC00 ≤ m ∧ m < 0xE000) (more : rest ≠ []) :
    readText start ('\\' :: 'u' :: a :: b :: c :: d :: '\\' :: 'u' :: e :: f :: g :: h :: rest) =
      continued (0x10000 + (n - 0xD800) * 0x400 + (m - 0xDC00)) (readText start rest) := by
  obtain ⟨i, rest, rfl⟩ := List.exists_cons_of_ne_nil more
  rw [readText, first]
  simp only [if_pos hn, second, if_pos hm]
  rfl

lemma unitEscape_four (small : n < 0x10000) : ∃ a b c d,
    unitEscape n = ['\\', 'u', a, b, c, d] ∧ hexFour? [a, b, c, d] = some n := by
  have value := hexFour?_hexDigits small
  rw [hexDigits_four small] at value
  exact ⟨_, _, _, _, by rw [unitEscape, hexDigits_four small], value⟩

lemma readText_unicodeEscape (small : n < 0x110000)
    (single : isFirstHalf n = true → StartsNoSecond rest) (more : rest ≠ []) :
    readText start (unicodeEscape n ++ rest) = continued n (readText start rest) := by
  unfold unicodeEscape
  split
  · next unit =>
    obtain ⟨a, b, c, d, form, value⟩ := unitEscape_four unit
    rw [form]
    exact readText_unit value single more
  · next large =>
    obtain ⟨a, b, c, d, form, value⟩ := unitEscape_four (n := 0xD800 + (n - 0x10000) / 0x400)
      (by omega)
    obtain ⟨e, f, g, h, form', value'⟩ := unitEscape_four (n := 0xDC00 + (n - 0x10000) % 0x400)
      (by omega)
    have pair := readText_pair start value value' (by omega) (by omega) more
    have whole : 0x10000 + (0xD800 + (n - 0x10000) / 0x400 - 0xD800) * 0x400 +
        (0xDC00 + (n - 0x10000) % 0x400 - 0xDC00) = n := by omega
    rw [whole] at pair
    dsimp only
    rw [form, form']
    exact pair

lemma eq_toNat_of_ofNat {c : Char} (h : Char.ofNat n = c) (some : c ≠ '\x00') : n = c.toNat := by
  by_cases valid : n.isValidChar
  · rw [← h, toNat_ofNat_of_isValid valid]
  · rw [Char.ofNat, dif_neg valid] at h
    exact absurd h.symm some

/-- The escapes of two characters are those that reading knows. -/
lemma readText_shortEscape {e : Char} (short : shortEscape? n = some e) :
    readText start ('\\' :: e :: rest) = continued n (readText start rest) := by
  unfold shortEscape? at short
  split at short
  case h_8 => cases short
  all_goals
    next h =>
    cases short
    obtain rfl := eq_toNat_of_ofNat h (by decide)
    rw [readText]
    · rfl
    all_goals simp

lemma ofNumber_of_small (small : n < 0x7f) : ofNumber n = [Char.ofNat n] := by
  rw [ofNumber, if_neg]
  simp only [isMarked, Bool.and_eq_true, decide_eq_true_eq, not_and]
  omega

/-- A character that stands for itself. -/
lemma readText_char {c : Char} (quote : c ≠ '"') (mark : c ≠ '\\') (low : 0x20 ≤ c.toNat) :
    readText start (c :: rest) = (readText start rest).map fun p => (c :: p.1, p.2) := by
  rw [readText, if_neg (by omega)]
  · rfl
  all_goals simp [quote, mark]

/-- A number that needs no escape. -/
lemma readText_ofNumber (low : 0x20 ≤ n) (small : n < 0x110000) (plain : shortEscape? n = none) :
    readText start (ofNumber n ++ rest) = continued n (readText start rest) := by
  have quote : Char.ofNat n ≠ '"' := fun same => by simp [shortEscape?, same] at plain
  have mark : Char.ofNat n ≠ '\\' := fun same => by simp [shortEscape?, same] at plain
  unfold continued ofNumber
  split
  · next marked =>
    rw [List.cons_append, readText_char (by decide) (by decide) (by decide), List.singleton_append,
      readText_char (shifted_ne marked (by decide)) (shifted_ne marked (by decide)) ?_]
    · cases readText start rest <;> rfl
    · rw [toNat_ofNat_of_isValid (isValidChar_shifted marked)]
      omega
  · next whole =>
    have whole : isMarked n = false := by simpa using whole
    have value := toNat_ofNat_of_isValid (isValidChar_of_not_marked small whole)
    exact readText_char quote mark (by omega)

/-- What a number is written as is read as that number. -/
lemma readText_escaped {ascii : Bool} (small : n < 0x110000)
    (single : ascii = true → isFirstHalf n = true → StartsNoSecond rest) (more : rest ≠ []) :
    readText start (escaped ascii n ++ rest) = continued n (readText start rest) := by
  unfold escaped
  split
  · next e short => exact readText_shortEscape short
  · next short =>
    split
    · next escape =>
      refine readText_unicodeEscape small (fun first => ?_) more
      cases ascii with
      | true => exact single rfl first
      | false =>
        simp only [isFirstHalf, Bool.and_eq_true, decide_eq_true_eq, Bool.false_and,
          Bool.or_false] at first escape
        omega
    · next plain =>
      simp only [Bool.or_eq_true, decide_eq_true_eq, not_or, Nat.not_lt] at plain
      exact readText_ofNumber plain.1 small short

lemma isPlain_unitEscape (n : Nat) : ∀ c ∈ unitEscape n, IsPlain c :=
  List.forall_mem_cons.2 ⟨by decide,
    List.forall_mem_cons.2 ⟨by decide, isPlain_hexDigits 4 n⟩⟩

lemma isPlain_escaped (n : Nat) : ∀ c ∈ escaped true n, IsPlain c := by
  unfold escaped
  split
  · next e short =>
    unfold shortEscape? at short
    split at short <;> cases short <;> exact isPlain_of_all (by decide)
  · split
    · unfold unicodeEscape
      split
      · exact isPlain_unitEscape n
      · exact List.forall_mem_append.2 ⟨isPlain_unitEscape _, isPlain_unitEscape _⟩
    · next plain =>
      simp only [Bool.true_and, Bool.or_eq_true, decide_eq_true_eq, not_or, Nat.not_lt, ge_iff_le,
        Nat.not_le] at plain
      rw [ofNumber_of_small plain.2]
      refine fun c hc => .inr ?_
      rw [List.mem_singleton.1 hc, toNat_ofNat_of_isValid (.inl (by omega))]
      exact plain

/-- What a number is written as starts with the escape of a second half only if it is one. -/
lemma startsNoSecond_escaped (small : n < 0x110000) (other : isSecondHalf n = false) :
    StartsNoSecond (escaped true n ++ rest) := by
  have unit {m : Nat} (hm : m < 0x10000) (other : isSecondHalf m = false) (rest : List Char) :
      StartsNoSecond (unitEscape m ++ rest) := by
    obtain ⟨a, b, c, d, form, value⟩ := unitEscape_four hm
    rw [form]
    rintro _ _ _ _ _ _ ⟨⟩
    exact ⟨m, value, other⟩
  unfold escaped
  split
  · next e short =>
    rintro a b c d f more form
    obtain rfl : e = 'u' := (List.cons.inj (List.cons.inj form).2).1
    unfold shortEscape? at short
    split at short <;> cases short
  · next short =>
    split
    · unfold unicodeEscape
      split
      · next unit' => exact unit unit' other rest
      · dsimp only
        rw [List.append_assoc]
        refine unit (by omega) ?_ _
        simp only [isSecondHalf, Bool.and_eq_false_iff, decide_eq_false_iff_not]
        omega
    · next plain =>
      simp only [Bool.true_and, Bool.or_eq_true, decide_eq_true_eq, not_or, Nat.not_lt, ge_iff_le,
        Nat.not_le] at plain
      rw [ofNumber_of_small plain.2]
      rintro a b c d f more form
      have mark : Char.ofNat n = '\\' := (List.cons.inj form).1
      unfold shortEscape? at short
      rw [mark] at short
      cases short

/-- The literals of numbers are read as what the numbers are kept as. -/
lemma readText_flatMap {ascii : Bool} {ns : List Nat} (small : ∀ n ∈ ns, n < 0x110000)
    (unpaired : ascii = true → IsUnpaired ns) :
    readText start (ns.flatMap (escaped ascii) ++ '"' :: rest) = .ok (ofNumbers ns, rest) := by
  induction ns with
  | nil => simp [readText, ofNumbers]
  | cons n ns ih =>
    obtain ⟨hn, hns⟩ := List.forall_mem_cons.1 small
    have behind (asked : ascii = true) (first : isFirstHalf n = true) :
        StartsNoSecond (ns.flatMap (escaped ascii) ++ '"' :: rest) := by
      obtain ⟨single, -⟩ := isUnpaired_cons.1 (unpaired asked)
      subst asked
      cases ns with
      | nil => rintro _ _ _ _ _ _ ⟨⟩
      | cons m ns =>
        rw [List.flatMap_cons, List.append_assoc]
        exact startsNoSecond_escaped (hns m List.mem_cons_self) (single first m rfl)
    rw [List.flatMap_cons, List.append_assoc, readText_escaped hn behind (by simp),
      ih hns fun asked => (isUnpaired_cons.1 (unpaired asked)).2]
    rfl

/-- The literal of a text is read as the text. -/
lemma readText_literal {ascii : Bool} (hs : Kept s)
    (unpaired : ascii = true → IsUnpaired (numbers s)) :
    readText start ((numbers s).flatMap (escaped ascii) ++ '"' :: rest) = .ok (s, rest) := by
  rw [readText_flatMap hs.lt_of_mem_numbers unpaired, hs.ofNumbers_numbers]

end ClientGen.Json

/-!
## Literals that are read

What the literals of a text are read as, where the text itself has no halves: a half comes from an
escape, and a second half of a pair never stands behind a first one, as their escapes are read as the
pair. So a text that is read can be written again.
-/

namespace ClientGen.Json

open Number Text

variable {s t left : List Char} {start : Nat}

/-- The characters behind an opening quote are the literal of a text, with what is left. -/
inductive ReadsText : List Char → List Char → List Char → Prop
  | done {rest} : ReadsText ('"' :: rest) [] rest
  | unit {a b c d n rest t left} : hexFour? [a, b, c, d] = some n →
      (isFirstHalf n = true → StartsNoSecond rest) → ReadsText rest t left →
      ReadsText ('\\' :: 'u' :: a :: b :: c :: d :: rest) (ofNumber n ++ t) left
  | pair {a b c d e f g h n m rest t left} : hexFour? [a, b, c, d] = some n →
      hexFour? [e, f, g, h] = some m → isFirstHalf n = true → isSecondHalf m = true →
      ReadsText rest t left →
      ReadsText ('\\' :: 'u' :: a :: b :: c :: d :: '\\' :: 'u' :: e :: f :: g :: h :: rest)
        (ofNumber (0x10000 + (n - 0xD800) * 0x400 + (m - 0xDC00)) ++ t) left
  | short {c e rest t left} : c ≠ 'u' → shortEscape c = some e → ReadsText rest t left →
      ReadsText ('\\' :: c :: rest) (e :: t) left
  | char {c rest t left} : c ≠ '"' → c ≠ '\\' → ReadsText rest t left →
      ReadsText (c :: rest) (c :: t) left

lemma readsText_of_readText (h : readText start s = .ok (t, left)) : ReadsText s t left := by
  fun_induction readText start s generalizing t left with
  | case1 | case3 | case4 | case5 | case9 | case11 | case12 | case14 => cases h
  | case2 =>
    cases h
    exact .done
  | case6 a b c d e f g h' i rest n first hn m second hm ih =>
    obtain ⟨⟨t, left⟩, behind, h⟩ := bind_eq_ok h
    obtain ⟨rfl, rfl⟩ := Prod.mk.inj (Except.ok.inj h)
    exact .pair first second (by simpa [isFirstHalf] using hn) (by simpa [isSecondHalf] using hm)
      (ih behind)
  | case7 a b c d e f g h' i rest n first hn m second hm ih =>
    obtain ⟨⟨t, left⟩, behind, h⟩ := bind_eq_ok h
    cases h
    refine .unit first (fun _ => ?_) (ih behind)
    rintro _ _ _ _ _ _ ⟨⟩
    exact ⟨m, second, by simpa [isSecondHalf] using hm⟩
  | case8 a b c d e f g h' i rest n first hn ih =>
    obtain ⟨⟨t, left⟩, behind, h⟩ := bind_eq_ok h
    cases h
    exact .unit first (fun half => absurd (by simpa [isFirstHalf] using half) hn) (ih behind)
  | case10 a b c d e rest alone n value ih =>
    obtain ⟨⟨t, left⟩, behind, h⟩ := bind_eq_ok h
    cases h
    refine .unit value (fun _ => ?_) (ih behind)
    rintro _ _ _ _ _ _ ⟨⟩
    exact (alone _ _ _ _ _ _ rfl rfl).elim
  | case13 c rest _ _ other e short ih =>
    obtain ⟨⟨t, left⟩, behind, h⟩ := bind_eq_ok h
    cases h
    exact .short other short (ih behind)
  | case15 c rest quote last _ _ _ mark _ ih =>
    obtain ⟨⟨t, left⟩, behind, h⟩ := bind_eq_ok h
    cases h
    refine .char quote (fun same => ?_) (ih behind)
    cases rest with
    | nil => exact last same rfl
    | cons d rest => exact mark d rest same rfl

lemma ReadsText.ne_nil (h : ReadsText s t left) : s ≠ [] := by
  cases h <;> exact List.cons_ne_nil _ _

lemma ReadsText.suffix (h : ReadsText s t left) : left <:+ s := by
  induction h with
  | done => exact List.suffix_cons _ _
  | unit _ _ _ ih => exact ih.trans (List.suffix_append [_, _, _, _, _, _] _)
  | pair _ _ _ _ _ ih =>
    exact ih.trans (List.suffix_append [_, _, _, _, _, _, _, _, _, _, _, _] _)
  | short _ _ _ ih => exact ih.trans (List.suffix_append [_, _] _)
  | char _ _ _ ih => exact ih.trans (List.suffix_cons _ _)

/-! ### The numbers that are read -/

lemma hexValue?_lt {c : Char} {n : Nat} (h : hexValue? c = some n) : n < 16 := by
  rcases hexValue?_cases h with digit | small | large
  all_goals omega

lemma hexFour?_lt {a b c d : Char} {n : Nat} (h : hexFour? [a, b, c, d] = some n) :
    n < 0x10000 := by
  unfold hexFour? at h
  dsimp only at h
  split at h
  · next ha hb hc hd =>
    obtain rfl := Option.some.inj h
    have := hexValue?_lt ha
    have := hexValue?_lt hb
    have := hexValue?_lt hc
    have := hexValue?_lt hd
    omega
  · cases h

lemma shortEscape_toNat_lt {c e : Char} (h : shortEscape c = some e) : e.toNat < 0x80 := by
  unfold shortEscape at h
  split at h <;> cases h <;> decide

lemma isHalf_of_first {n : Nat} (h : isFirstHalf n = true) : isHalf n = true := by
  simp only [isFirstHalf, isHalf, Bool.and_eq_true, decide_eq_true_eq] at *
  omega

lemma isHalf_of_second {n : Nat} (h : isSecondHalf n = true) : isHalf n = true := by
  simp only [isSecondHalf, isHalf, Bool.and_eq_true, decide_eq_true_eq] at *
  omega

lemma isFirstHalf_of_whole {n : Nat} (h : isHalf n = false) : isFirstHalf n = false :=
  Bool.eq_false_iff.2 fun half => Bool.eq_false_iff.1 h (isHalf_of_first half)

lemma isSecondHalf_of_whole {n : Nat} (h : isHalf n = false) : isSecondHalf n = false :=
  Bool.eq_false_iff.2 fun half => Bool.eq_false_iff.1 h (isHalf_of_second half)

/-- What two halves are together. -/
lemma pair_range {n m : Nat} (first : isFirstHalf n = true) (second : isSecondHalf m = true) :
    0x10000 ≤ 0x10000 + (n - 0xD800) * 0x400 + (m - 0xDC00) ∧
      0x10000 + (n - 0xD800) * 0x400 + (m - 0xDC00) < 0x110000 := by
  simp only [isFirstHalf, isSecondHalf, Bool.and_eq_true, decide_eq_true_eq] at first second
  omega

lemma isHalf_pair {n m : Nat} (first : isFirstHalf n = true) (second : isSecondHalf m = true) :
    isHalf (0x10000 + (n - 0xD800) * 0x400 + (m - 0xDC00)) = false := by
  have := pair_range first second
  simp only [isHalf, Bool.and_eq_false_iff, decide_eq_false_iff_not]
  omega

lemma shortEscape_ne_halfMark {c e : Char} (h : shortEscape c = some e) : e ≠ halfMark := by
  rintro rfl
  exact absurd (shortEscape_toNat_lt h) (by decide)

/-! ### Texts that are read -/

lemma ReadsText.of_char {c : Char} (h : ReadsText (c :: s) t left) (quote : c ≠ '"')
    (mark : c ≠ '\\') : ∃ t', t = c :: t' ∧ ReadsText s t' left := by
  cases h with
  | done => exact absurd rfl quote
  | unit => exact absurd rfl mark
  | pair => exact absurd rfl mark
  | short => exact absurd rfl mark
  | char _ _ behind => exact ⟨_, rfl, behind⟩

/-- The character behind a mark is read as it is. -/
lemma ReadsText.of_mark (h : ReadsText s t left) (whole : HasNoHalf (halfMark :: s)) :
    ∃ n t', isHalf n = false ∧ isMarked n = true ∧ t = Char.ofNat (n + halfShift) :: t' := by
  obtain ⟨n, rest, hn, other, rfl, -⟩ := whole.mark
  obtain ⟨t', rfl, -⟩ := h.of_char (shifted_ne hn (by decide)) (shifted_ne hn (by decide))
  exact ⟨n, t', other, hn, rfl⟩

/-- A text that is read starts with a second half only if its literal starts with the escape of
one. -/
lemma ReadsText.head (h : ReadsText s t left) (whole : HasNoHalf s) (other : StartsNoSecond s) :
    ∀ m ∈ (numbers t).head?, isSecondHalf m = false := by
  have first {n : Nat} {ns : List Nat} (hn : isSecondHalf n = false) :
      ∀ m ∈ (n :: ns).head?, isSecondHalf m = false := by
    rintro m ⟨⟩
    exact hn
  cases h with
  | done => nofun
  | unit value _ behind =>
    obtain ⟨e, rest, rfl⟩ := List.exists_cons_of_ne_nil behind.ne_nil
    obtain ⟨n', value', hn⟩ := other _ _ _ _ _ _ rfl
    obtain rfl := Option.some.inj (value.symm.trans value')
    rw [numbers_ofNumber_append ((hexFour?_lt value).trans (by decide))]
    exact first hn
  | pair _ _ hn hm =>
    rw [numbers_ofNumber_append (pair_range hn hm).2]
    exact first (isSecondHalf_of_whole (isHalf_pair hn hm))
  | short _ escape =>
    rw [numbers_char (shortEscape_ne_halfMark escape)]
    exact first (isSecondHalf_of_whole (isHalf_toNat _))
  | @char c rest t left quote mark behind =>
    by_cases hc : c = halfMark
    · subst hc
      obtain ⟨n, t, hn, marked, rfl⟩ := behind.of_mark whole
      rw [numbers_half marked]
      exact first (isSecondHalf_of_whole hn)
    · rw [numbers_char hc]
      exact first (isSecondHalf_of_whole (isHalf_toNat _))

/-- A text that is read is whole. -/
lemma ReadsText.isWhole (h : ReadsText s t left) (whole : HasNoHalf s) :
    Kept t ∧ IsUnpaired (numbers t) := by
  have single {n : Nat} {ns : List Nat} (hn : isHalf n = false) (hns : IsUnpaired ns) :
      IsUnpaired (n :: ns) :=
    isUnpaired_cons.2 ⟨fun half => absurd (isHalf_of_first half) (by simp [hn]), hns⟩
  induction h with
  | done => exact ⟨.nil, .nil⟩
  | unit value alone behind ih =>
    have rest := whole.of_suffix (List.suffix_append [_, _, _, _, _, _] _)
    obtain ⟨kept, unpaired⟩ := ih rest
    have small := (hexFour?_lt value).trans (by decide : 0x10000 < 0x110000)
    refine ⟨kept_ofNumber_append small kept, ?_⟩
    rw [numbers_ofNumber_append small]
    exact isUnpaired_cons.2 ⟨fun half => behind.head rest (alone half), unpaired⟩
  | pair _ _ hn hm behind ih =>
    obtain ⟨kept, unpaired⟩ :=
      ih (whole.of_suffix (List.suffix_append [_, _, _, _, _, _, _, _, _, _, _, _] _))
    have small := (pair_range hn hm).2
    refine ⟨kept_ofNumber_append small kept, ?_⟩
    rw [numbers_ofNumber_append small]
    exact single (isHalf_pair hn hm) unpaired
  | short _ escape behind ih =>
    obtain ⟨kept, unpaired⟩ := ih whole.tail.tail
    have other := shortEscape_ne_halfMark escape
    refine ⟨.char other kept, ?_⟩
    rw [numbers_char other]
    exact single (isHalf_toNat _) unpaired
  | @char c rest t left quote mark behind ih =>
    obtain ⟨kept, unpaired⟩ := ih whole.tail
    by_cases hc : c = halfMark
    · subst hc
      obtain ⟨n, t, hn, marked, rfl⟩ := behind.of_mark whole
      have large : Char.ofNat (n + halfShift) ≠ halfMark := shifted_ne marked (by decide)
      rw [numbers_char large] at unpaired
      refine ⟨.half marked (kept.of_cons large), ?_⟩
      rw [numbers_half marked]
      exact single hn (isUnpaired_cons.1 unpaired).2
    · refine ⟨.char hc kept, ?_⟩
      rw [numbers_char hc]
      exact single (isHalf_toNat _) unpaired

/-- The text of a literal is whole, and what stands behind the literal has no halves. -/
lemma isWhole_of_readText (h : readText start s = .ok (t, left)) (whole : HasNoHalf s) :
    IsWhole (String.ofList t) ∧ HasNoHalf left := by
  have reads := readsText_of_readText h
  obtain ⟨kept, unpaired⟩ := reads.isWhole whole
  refine ⟨⟨?_, ?_⟩, whole.of_suffix reads.suffix⟩ <;> rwa [String.toList_ofList]

end ClientGen.Json
