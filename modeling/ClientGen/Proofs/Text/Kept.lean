import ClientGen.Text.Half
import ClientGen.Text.Utf8
import Mathlib.Data.List.Basic
import Mathlib.Data.List.TakeWhile

/-!
# Texts as they are kept

Which characters a text is kept as: a mark stands only in front of the character of a number that is
kept behind one. Such texts can be put together and taken apart like the rows of numbers that they
stand for.
-/

namespace ClientGen.Text

/-- Some characters are how a text is kept. -/
inductive Kept : List Char → Prop
  | nil : Kept []
  | char {c s} : c ≠ halfMark → Kept s → Kept (c :: s)
  | half {n s} : isMarked n = true → Kept s → Kept (halfMark :: Char.ofNat (n + halfShift) :: s)

variable {s t : List Char} {c : Char} {n : Nat}

lemma kept_of_notMem (h : halfMark ∉ s) : Kept s := by
  induction s with
  | nil => exact .nil
  | cons c s ih =>
    rw [List.mem_cons, not_or] at h
    exact .char (Ne.symm h.1) (ih h.2)

lemma Kept.append (hs : Kept s) (ht : Kept t) : Kept (s ++ t) := by
  induction hs with
  | nil => exact ht
  | char hc _ ih => exact .char hc ih
  | half hn _ ih => exact .half hn ih

lemma Kept.of_cons (h : Kept (c :: s)) (hc : c ≠ halfMark) : Kept s := by
  cases h with
  | char _ h => exact h
  | half => exact absurd rfl hc

/-! ### Numbers -/

lemma numbers_char (hc : c ≠ halfMark) (s : List Char) : numbers (c :: s) = c.toNat :: numbers s := by
  cases s with
  | nil => rfl
  | cons d s => simp [numbers, hc]

lemma numbers_half (hn : isMarked n = true) (s : List Char) :
    numbers (halfMark :: Char.ofNat (n + halfShift) :: s) = n :: numbers s := by
  have small : n < 0x110000 := by
    simp only [isMarked, Bool.and_eq_true, decide_eq_true_eq] at hn
    omega
  have := numbers_ofNumber_append small s
  rwa [ofNumber, if_pos hn] at this

lemma numbers_of_notMem (h : halfMark ∉ s) : numbers s = s.map Char.toNat := by
  induction s with
  | nil => rfl
  | cons c s ih =>
    rw [List.mem_cons, not_or] at h
    rw [numbers_char (Ne.symm h.1), ih h.2, List.map_cons]

/-- A character with a marked number is the mark itself. -/
lemma isMarked_toNat (hc : c ≠ halfMark) : isMarked c.toNat = false := by
  rw [Bool.eq_false_iff]
  intro marked
  simp only [isMarked, Bool.and_eq_true, decide_eq_true_eq] at marked
  have valid : c.toNat < 0xD800 ∨ 0xDFFF < c.toNat ∧ c.toNat < 0x110000 := c.valid
  have same : c.toNat = halfMark.toNat := by
    change c.toNat = 0xE000
    omega
  exact hc (Char.toNat_inj.1 same)

lemma ofNumber_toNat (hc : c ≠ halfMark) : ofNumber c.toNat = [c] := by
  rw [ofNumber, if_neg (by simp [isMarked_toNat hc]), Char.ofNat_toNat]

lemma Kept.numbers_append (hs : Kept s) (t : List Char) :
    numbers (s ++ t) = numbers s ++ numbers t := by
  induction hs with
  | nil => rfl
  | char hc _ ih => rw [List.cons_append, numbers_char hc, numbers_char hc, ih, List.cons_append]
  | half hn _ ih =>
    rw [List.cons_append, List.cons_append, numbers_half hn, numbers_half hn, ih, List.cons_append]

/-- A text is kept as its numbers are. -/
lemma Kept.ofNumbers_numbers (hs : Kept s) : ofNumbers (numbers s) = s := by
  induction hs with
  | nil => rfl
  | char hc _ ih =>
    rw [numbers_char hc, ofNumbers, List.flatMap_cons, ofNumber_toNat hc]
    exact congrArg _ ih
  | half hn _ ih =>
    rw [numbers_half hn, ofNumbers, List.flatMap_cons, ofNumber, if_pos hn]
    change halfMark :: Char.ofNat _ :: ofNumbers (numbers _) = _
    rw [ih]

lemma Kept.lt_of_mem_numbers (hs : Kept s) : ∀ n ∈ numbers s, n < 0x110000 := by
  induction hs with
  | nil => simp [numbers]
  | @char c s hc _ ih =>
    rw [numbers_char hc]
    have valid : c.toNat < 0xD800 ∨ 0xDFFF < c.toNat ∧ c.toNat < 0x110000 := c.valid
    exact List.forall_mem_cons.2 ⟨by omega, ih⟩
  | half hn _ ih =>
    rw [numbers_half hn]
    simp only [isMarked, Bool.and_eq_true, decide_eq_true_eq] at hn
    exact List.forall_mem_cons.2 ⟨by omega, ih⟩

/-! ### Texts of certain numbers -/

/-- A text that is kept and all of whose numbers satisfy `P`. -/
structure IsMadeOf (P : Nat → Prop) (s : List Char) : Prop where
  kept : Kept s
  numbers : ∀ n ∈ numbers s, P n

variable {P : Nat → Prop}

lemma isMadeOf_nil : IsMadeOf P [] :=
  ⟨.nil, by simp [Text.numbers]⟩

lemma IsMadeOf.append (hs : IsMadeOf P s) (ht : IsMadeOf P t) : IsMadeOf P (s ++ t) where
  kept := hs.kept.append ht.kept
  numbers := by
    rw [hs.kept.numbers_append]
    exact List.forall_mem_append.2 ⟨hs.numbers, ht.numbers⟩

lemma isMadeOf_cons (hc : c ≠ halfMark) : IsMadeOf P (c :: s) ↔ P c.toNat ∧ IsMadeOf P s := by
  constructor
  · rintro ⟨kept, all⟩
    rw [numbers_char hc] at all
    obtain ⟨h, all⟩ := List.forall_mem_cons.1 all
    exact ⟨h, kept.of_cons hc, all⟩
  · rintro ⟨h, kept, all⟩
    refine ⟨.char hc kept, ?_⟩
    rw [numbers_char hc]
    exact List.forall_mem_cons.2 ⟨h, all⟩

lemma isMadeOf_half (hn : isMarked n = true) :
    IsMadeOf P (halfMark :: Char.ofNat (n + halfShift) :: s) ↔ P n ∧ IsMadeOf P s := by
  constructor
  · rintro ⟨kept, all⟩
    rw [numbers_half hn] at all
    obtain ⟨h, all⟩ := List.forall_mem_cons.1 all
    refine ⟨h, ?_, all⟩
    generalize form : halfMark :: Char.ofNat (n + halfShift) :: s = t at kept
    cases kept with
    | nil => cases form
    | char hc => exact absurd (List.cons.inj form).1.symm hc
    | half _ kept => exact (List.cons.inj (List.cons.inj form).2).2 ▸ kept
  · rintro ⟨h, kept, all⟩
    refine ⟨.half hn kept, ?_⟩
    rw [numbers_half hn]
    exact List.forall_mem_cons.2 ⟨h, all⟩

/-! ### Halves -/

lemma loneHalf?_eq_none {spared : Nat → Bool} {ns : List Nat} :
    loneHalf? spared ns = none ↔ ∀ n ∈ ns, isHalf n = false ∨ spared n = true := by
  have all : loneHalf? spared ns = none ↔
      ns.dropWhile (fun n => !isHalf n || spared n) = [] := by
    unfold loneHalf?
    dsimp only
    split <;> simp_all
  rw [all, List.dropWhile_eq_nil_iff]
  simp

end ClientGen.Text

/-!
## Plain texts

Texts of printable ASCII characters and line feeds. They are written in UTF-8 and read back as they
are.
-/

namespace ClientGen.Text

/-- A line feed or a printable character of ASCII. -/
def IsPlain (c : Char) : Prop :=
  c = '\n' ∨ 0x20 ≤ c.toNat ∧ c.toNat < 0x7f

instance (c : Char) : Decidable (IsPlain c) :=
  inferInstanceAs (Decidable (_ ∨ _))

variable {s : List Char} {c : Char} {n : Nat}

/-- The characters of a text are looked at one by one. -/
lemma isPlain_of_all (h : (s.all fun c => decide (IsPlain c)) = true) : ∀ c ∈ s, IsPlain c :=
  fun c hc => of_decide_eq_true (List.all_eq_true.1 h c hc)

lemma IsPlain.ne_halfMark (h : IsPlain c) : c ≠ halfMark := by
  rintro rfl
  exact absurd h (by decide)

lemma IsPlain.ne_return (h : IsPlain c) : c ≠ '\r' := by
  rintro rfl
  exact absurd h (by decide)

lemma IsPlain.lt (h : IsPlain c) : c.toNat < 0x7f := by
  obtain rfl | h := h
  · decide
  · exact h.2

lemma kept_of_plain (h : ∀ c ∈ s, IsPlain c) : Kept s :=
  kept_of_notMem fun mark => (h _ mark).ne_halfMark rfl

lemma numbers_of_plain (h : ∀ c ∈ s, IsPlain c) : numbers s = s.map Char.toNat :=
  numbers_of_notMem fun mark => (h _ mark).ne_halfMark rfl

/-! ### Digits in base sixteen -/

/-- What holds of the sixteen digits holds of all characters of a number. -/
lemma of_mem_toDigits {P : Char → Prop} (h : ∀ d < 16, P (Nat.digitChar d)) (n : Nat) :
    ∀ c ∈ Nat.toDigits 16 n, P c := by
  induction n using Nat.strongRecOn with
  | ind n ih =>
    by_cases small : n < 16
    · rw [Nat.toDigits_of_lt_base small]
      exact fun c hc => List.mem_singleton.1 hc ▸ h n small
    · rw [Nat.toDigits_of_base_le (by decide) (by omega)]
      refine List.forall_mem_append.2 ⟨ih (n / 16) (by omega), ?_⟩
      exact fun c hc => List.mem_singleton.1 hc ▸ h _ (Nat.mod_lt _ (by decide))

/-- A digit in base sixteen is one of three ranges of characters. -/
lemma hexValue?_cases (h : hexValue? c = some n) :
    48 ≤ c.toNat ∧ c.toNat ≤ 57 ∧ n = c.toNat - 48 ∨
      97 ≤ c.toNat ∧ c.toNat ≤ 102 ∧ n = c.toNat - 97 + 10 ∨
      65 ≤ c.toNat ∧ c.toNat ≤ 70 ∧ n = c.toNat - 65 + 10 := by
  have letter {a f : Char} (between : (decide (a ≤ c) && decide (c ≤ f)) = true) :
      a.toNat ≤ c.toNat ∧ c.toNat ≤ f.toNat := by
    simp only [Bool.and_eq_true, decide_eq_true_eq] at between
    exact between
  unfold hexValue? at h
  split at h
  · next digit =>
    obtain rfl := Option.some.inj h
    obtain ⟨low, high⟩ := Char.isDigit_iff_toNat.1 digit
    exact .inl ⟨low, high, rfl⟩
  · split at h
    · next small =>
      obtain rfl := Option.some.inj h
      exact .inr (.inl ⟨(letter small).1, (letter small).2, rfl⟩)
    · split at h
      · next large =>
        obtain rfl := Option.some.inj h
        exact .inr (.inr ⟨(letter large).1, (letter large).2, rfl⟩)
      · cases h

lemma isPlain_toDigits (n : Nat) : ∀ c ∈ Nat.toDigits 16 n, IsPlain c :=
  of_mem_toDigits (by decide) n

lemma isPlain_zeros (width : Nat) : ∀ c ∈ List.replicate width '0', IsPlain c :=
  fun _ hc => List.eq_of_mem_replicate hc ▸ by decide

lemma isPlain_hexDigits (width n : Nat) : ∀ c ∈ hexDigits width n, IsPlain c :=
  List.forall_mem_append.2 ⟨isPlain_zeros _, isPlain_toDigits n⟩

/-! ### Bytes -/

/-- A text without marks is written as it is. -/
lemma encode_of_notMem {s : String} (h : halfMark ∉ s.toList) : encode s = .ok s.toUTF8 := by
  rw [encode, released, if_neg (by simpa using h)]
  rfl

lemma decode_toUTF8 (s : String) : decode s.toUTF8 = .ok (kept s) := by
  have valid : s.toUTF8.IsValidUTF8 := s.isValidUTF8
  have same : String.fromUTF8 s.toUTF8 valid = s := rfl
  rw [decode, dif_pos valid, same]

lemma decode_toUTF8_of_notMem {s : String} (h : halfMark ∉ s.toList) :
    decode s.toUTF8 = .ok s := by
  rw [decode_toUTF8, kept, keep, if_neg (by simpa using h), String.ofList_toList]

/-- No carriage returns are left among the line ends. -/
lemma notMem_universalNewlines (s : List Char) : '\r' ∉ universalNewlines s := by
  fun_induction universalNewlines s with
  | case1 => simp
  | case2 rest ih => simpa using ih
  | case3 rest _ ih => simpa using ih
  | case4 c rest _ other ih =>
    rw [List.mem_cons, not_or]
    exact ⟨fun same => other same.symm, ih⟩

lemma universalNewlines_of_notMem (h : '\r' ∉ s) : universalNewlines s = s := by
  induction s with
  | nil => rfl
  | cons c s ih =>
    rw [List.mem_cons, not_or] at h
    rw [universalNewlines, ih h.2]
    · rintro more rfl
      exact fun _ => h.1 rfl
    · rintro rfl
      exact h.1 rfl

end ClientGen.Text

/-!
## Texts without halves

A text that comes from outside has no halves. What is left of it behind some characters has none
either, nor has the text with other line ends. A text without halves is written in UTF-8 and read back.
-/

namespace ClientGen.Text

variable {s t : List Char} {c : Char} {n : Nat}

/-- A text none of whose numbers is that of a half. -/
def HasNoHalf (s : List Char) : Prop :=
  IsMadeOf (fun n => isHalf n = false) s

lemma isHalf_toNat (c : Char) : isHalf c.toNat = false := by
  have valid : c.toNat < 0xD800 ∨ 0xDFFF < c.toNat ∧ c.toNat < 0x110000 := c.valid
  simp only [isHalf, Bool.and_eq_false_iff, decide_eq_false_iff_not]
  omega

/-- The character behind a mark is none of the small ones. -/
lemma shifted_ne (hn : isMarked n = true) (small : c.toNat < 0xF0000) :
    Char.ofNat (n + halfShift) ≠ c := by
  rintro rfl
  rw [toNat_ofNat_of_isValid (isValidChar_shifted hn)] at small
  simp only [isMarked, Bool.and_eq_true, decide_eq_true_eq] at hn
  unfold halfShift at small
  omega

lemma hasNoHalf_of_notMem (h : halfMark ∉ s) : HasNoHalf s := by
  refine ⟨kept_of_notMem h, ?_⟩
  rw [numbers_of_notMem h]
  intro n hn
  obtain ⟨c, -, rfl⟩ := List.mem_map.1 hn
  exact isHalf_toNat c

lemma hasNoHalf_cons (hc : c ≠ halfMark) : HasNoHalf (c :: s) ↔ HasNoHalf s :=
  (isMadeOf_cons hc).trans (and_iff_right (isHalf_toNat c))

/-- Behind a mark stands the character of a number that is no half. -/
lemma HasNoHalf.mark (h : HasNoHalf (halfMark :: s)) : ∃ n t, isMarked n = true ∧ isHalf n = false ∧
    s = Char.ofNat (n + halfShift) :: t ∧ HasNoHalf t := by
  have form := h.kept
  generalize marked : halfMark :: s = u at form
  cases form with
  | nil => cases marked
  | char hc => exact absurd (List.cons.inj marked).1.symm hc
  | @half n t hn _ =>
    obtain rfl := (List.cons.inj marked).2
    obtain ⟨whole, ht⟩ := (isMadeOf_half hn).1 h
    exact ⟨n, t, hn, whole, rfl, ht⟩

/-- What stands behind the first character of a text without halves has none. -/
lemma HasNoHalf.tail (h : HasNoHalf (c :: s)) : HasNoHalf s := by
  by_cases hc : c = halfMark
  · subst hc
    obtain ⟨n, t, hn, -, rfl, ht⟩ := h.mark
    exact (hasNoHalf_cons (shifted_ne hn (by decide))).2 ht
  · exact (hasNoHalf_cons hc).1 h

lemma HasNoHalf.of_suffix (h : HasNoHalf s) (part : t <:+ s) : HasNoHalf t := by
  obtain ⟨front, rfl⟩ := part
  induction front with
  | nil => exact h
  | cons c front ih => exact ih h.tail

/-! ### Texts that are kept -/

lemma kept_ofNumber_append (small : n < 0x110000) (hs : Kept s) : Kept (ofNumber n ++ s) := by
  unfold ofNumber
  split
  · next marked => exact .half marked hs
  · next whole =>
    have whole : isMarked n = false := by simpa using whole
    refine .char (fun same => ?_) hs
    have value := toNat_ofNat_of_isValid (isValidChar_of_not_marked small whole)
    rw [same] at value
    subst value
    exact absurd whole (by decide)

lemma kept_ofNumbers {ns : List Nat} (small : ∀ n ∈ ns, n < 0x110000) : Kept (ofNumbers ns) := by
  induction ns with
  | nil => exact .nil
  | cons n ns ih =>
    obtain ⟨hn, hns⟩ := List.forall_mem_cons.1 small
    exact kept_ofNumber_append hn (ih hns)

/-- Characters are kept as what their numbers are kept as. -/
lemma keep_eq (s : List Char) : keep s = ofNumbers (s.map Char.toNat) := by
  unfold keep
  split
  · rfl
  · next none =>
    have single : ∀ c ∈ s, ofNumber c.toNat = [c] := by
      rintro c hc
      refine ofNumber_toNat ?_
      rintro rfl
      exact none (by simpa using hc)
    rw [ofNumbers, List.flatMap_map, List.flatMap_congr single, List.flatMap_singleton']

lemma lt_of_mem_map_toNat : ∀ n ∈ s.map Char.toNat, n < 0x110000 := by
  intro n hn
  obtain ⟨c, -, rfl⟩ := List.mem_map.1 hn
  have valid : c.toNat < 0xD800 ∨ 0xDFFF < c.toNat ∧ c.toNat < 0x110000 := c.valid
  omega

/-- The numbers of a text from outside are those of its characters. -/
lemma numbers_kept (s : String) : numbers (kept s).toList = s.toList.map Char.toNat := by
  rw [kept, String.toList_ofList, keep_eq, numbers_ofNumbers lt_of_mem_map_toNat]

lemma isHalf_of_mem_numbers_kept {s : String} : ∀ n ∈ numbers (kept s).toList, isHalf n = false := by
  rw [numbers_kept]
  intro n hn
  obtain ⟨c, -, rfl⟩ := List.mem_map.1 hn
  exact isHalf_toNat c

/-- A text from outside has no halves. -/
lemma hasNoHalf_kept (s : String) : HasNoHalf (kept s).toList := by
  refine ⟨?_, isHalf_of_mem_numbers_kept⟩
  rw [kept, String.toList_ofList, keep_eq]
  exact kept_ofNumbers lt_of_mem_map_toNat

lemma hasNoHalf_of_decode {bytes : ByteArray} {t : String} (h : decode bytes = .ok t) :
    HasNoHalf t.toList := by
  unfold decode at h
  split at h
  · obtain rfl := Except.ok.inj h
    exact hasNoHalf_kept _
  · split at h <;> cases h

/-- Other line ends leave a text without halves. -/
lemma hasNoHalf_universalNewlines (h : HasNoHalf s) : HasNoHalf (universalNewlines s) := by
  have feed : '\n' ≠ halfMark := by decide
  fun_induction universalNewlines s with
  | case1 => exact h
  | case2 rest ih => exact (hasNoHalf_cons feed).2 (ih h.tail.tail)
  | case3 rest _ ih => exact (hasNoHalf_cons feed).2 (ih h.tail)
  | case4 c rest _ other ih =>
    have behind := ih h.tail
    by_cases hc : c = halfMark
    · subst hc
      obtain ⟨n, t, hn, whole, rfl, -⟩ := h.mark
      have noReturn : Char.ofNat (n + halfShift) ≠ '\r' := shifted_ne hn (by decide)
      have form : universalNewlines (Char.ofNat (n + halfShift) :: t) =
          Char.ofNat (n + halfShift) :: universalNewlines t := by
        rw [universalNewlines]
        · exact fun _ same _ => noReturn same
        · exact noReturn
      rw [form] at behind ⊢
      have behind := (hasNoHalf_cons (shifted_ne hn (by decide))).1 behind
      exact (isMadeOf_half hn).2 ⟨whole, behind⟩
    · exact (hasNoHalf_cons hc).2 behind

/-! ### Bytes -/

/-- A text has a form in UTF-8 if and only if it has no halves. -/
lemma exists_encode_iff {s : String} (hs : Kept s.toList) :
    (∃ bytes, encode s = .ok bytes) ↔ HasNoHalf s.toList := by
  by_cases mark : halfMark ∈ s.toList
  · have whole : loneHalf? (fun _ => false) (numbers s.toList) = none ↔ HasNoHalf s.toList := by
      rw [loneHalf?_eq_none]
      exact ⟨fun h => ⟨hs, fun n hn => (h n hn).resolve_right Bool.false_ne_true⟩,
        fun h n hn => .inl (h.numbers n hn)⟩
    rw [← whole, encode, released, if_pos (by simpa using mark)]
    dsimp only
    cases loneHalf? (fun _ => false) (numbers s.toList) with
    | some h => exact ⟨fun ⟨_, form⟩ => (by cases form), nofun⟩
    | none => exact ⟨fun _ => rfl, fun _ => ⟨_, rfl⟩⟩
  · exact ⟨fun _ => hasNoHalf_of_notMem mark, fun _ => ⟨_, encode_of_notMem mark⟩⟩

/-- A text that is written in UTF-8 is read back. -/
lemma decode_of_encode {s : String} (hs : Kept s.toList) {bytes : ByteArray}
    (form : encode s = .ok bytes) : decode bytes = .ok s := by
  by_cases mark : halfMark ∈ s.toList
  swap
  · rw [encode_of_notMem mark] at form
    obtain rfl := Except.ok.inj form
    exact decode_toUTF8_of_notMem mark
  unfold encode released at form
  rw [if_pos (by simpa using mark)] at form
  dsimp only at form
  split at form
  · cases form
  next whole =>
  obtain rfl := Except.ok.inj form
  have back : ((numbers s.toList).map Char.ofNat).map Char.toNat = numbers s.toList := by
    rw [List.map_map]
    refine (List.map_congr_left fun n hn => ?_).trans (List.map_id _)
    have small := hs.lt_of_mem_numbers n hn
    have other := (loneHalf?_eq_none.1 whole n hn).resolve_right Bool.false_ne_true
    simp only [isHalf, Bool.and_eq_false_iff, decide_eq_false_iff_not] at other
    refine toNat_ofNat_of_isValid ?_
    unfold Nat.isValidChar
    omega
  rw [decode_toUTF8, kept, String.toList_ofList, keep_eq, back, hs.ofNumbers_numbers,
    String.ofList_toList]

end ClientGen.Text
