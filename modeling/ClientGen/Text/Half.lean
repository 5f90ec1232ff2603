import ClientGen.Text.Chars

/-!
# Halves of pairs

A character beyond U+FFFF is a pair of two halves, 0xD800 to 0xDBFF and 0xDC00 to 0xDFFF, where text
is written in units of sixteen bits. An escape may name a half alone, which is no character, and a
text may hold it all the same, as long as it is not written in UTF-8.

A text is thus a row of numbers, each that of a character or of a half. It is kept as characters: a
half as two of them for private use, of which the first is a mark. The mark itself is kept behind
another mark as well, so that every text is kept in one way, and texts that are kept are in the same
order as their numbers.
-/

namespace ClientGen.Text

/-- The mark in front of a half. -/
def halfMark : Char := '\ue000'

/-- How much greater than the number of a half is that of the character behind the mark. -/
def halfShift : Nat := 0xE2800

/-- Whether a number is that of a half. -/
def isHalf (n : Nat) : Bool :=
  0xD800 ≤ n && n < 0xE000

/-- Whether a number is kept behind a mark: that of a half or of the mark. -/
def isMarked (n : Nat) : Bool :=
  0xD800 ≤ n && n ≤ 0xE000

/-- The characters that a number is kept as. -/
def ofNumber (n : Nat) : List Char :=
  if isMarked n then [halfMark, Char.ofNat (n + halfShift)] else [Char.ofNat n]

/-- The characters that numbers are kept as. -/
def ofNumbers (ns : List Nat) : List Char :=
  ns.flatMap ofNumber

/-- The numbers of a text that is kept as some characters. -/
def numbers : List Char → List Nat
  | [] => []
  | [c] => [c.toNat]
  | c :: d :: rest =>
    if c == halfMark then (d.toNat - halfShift) :: numbers rest
    else c.toNat :: numbers (d :: rest)

/-- How some characters, none of which is a half, are kept. -/
def keep (s : List Char) : List Char :=
  if s.contains halfMark then ofNumbers (s.map Char.toNat) else s

/-- A text that comes from outside as it is kept. -/
def kept (s : String) : String :=
  String.ofList (keep s.toList)

/-- A text in pieces of one number each. -/
def singles (s : List Char) : List (List Char) :=
  (numbers s).map ofNumber

/-- How many numbers a text has. -/
def count (s : String) : Nat :=
  (numbers s.toList).length

/-- A text that is filled up with spaces on the right to at least `width` numbers. -/
def padRight (width : Nat) (s : String) : String :=
  s ++ String.ofList (List.replicate (width - count s) ' ')

/-- A half that should be written in UTF-8: its number, where it stands, and how many halves stand
there in a row. -/
structure LoneHalf where
  number : Nat
  offset : Nat
  count : Nat
  deriving DecidableEq, Repr

/-- The first half among some numbers that is not `spared`, unless there is none. -/
def loneHalf? (spared : Nat → Bool) (ns : List Nat) : Option LoneHalf :=
  let goesBefore (n : Nat) : Bool := !isHalf n || spared n
  match ns.dropWhile goesBefore with
  | [] => none
  | n :: rest =>
    some
      { number := n
        offset := (ns.takeWhile goesBefore).length
        count := (rest.takeWhile isHalf).length + 1 }

/-- The words for a half that has no form. -/
def LoneHalf.message (h : LoneHalf) : String :=
  let where_ :=
    if h.count ≤ 1 then
      "character '" ++ String.ofList ('\\' :: 'u' :: hexDigits 4 h.number) ++ "' in position " ++
        toString h.offset
    else
      "characters in position " ++ toString h.offset ++ "-" ++ toString (h.offset + h.count - 1)
  "'utf-8' codec can't encode " ++ where_ ++ ": surrogates not allowed"

/-- A text as it is outside, unless it holds a half. -/
def released (s : String) : Except LoneHalf String :=
  if s.toList.contains halfMark then
    let ns := numbers s.toList
    match loneHalf? (fun _ => false) ns with
    | some h => .error h
    | none => .ok (String.ofList (ns.map Char.ofNat))
  else .ok s

/-- A text in UTF-8, unless it holds a half. -/
def encode (s : String) : Except LoneHalf ByteArray :=
  (released s).map String.toUTF8

/-- The bytes of a text in UTF-8. For one that holds a half they are those of what it is kept as. -/
def bytesOf (s : String) : ByteArray :=
  match encode s with
  | .ok bytes => bytes
  | .error _ => s.toUTF8

theorem toNat_ofNat_of_isValid {n : Nat} (h : n.isValidChar) : (Char.ofNat n).toNat = n := by
  unfold Char.ofNat
  rw [dif_pos h]
  unfold Char.ofNatAux Char.toNat
  rfl

theorem isValidChar_shifted {n : Nat} (h : isMarked n = true) : (n + halfShift).isValidChar := by
  have range : 0xD800 ≤ n ∧ n ≤ 0xE000 := by simpa [isMarked] using h
  right; unfold halfShift; constructor <;> omega

theorem isValidChar_of_not_marked {n : Nat} (small : n < 0x110000) (h : isMarked n = false) :
    n.isValidChar := by
  simp only [isMarked, Bool.and_eq_false_iff, decide_eq_false_iff_not] at h
  by_cases low : n < 0xD800
  · left; omega
  · right; constructor <;> omega

/-- What a number is kept as gives the number back, whatever follows. -/
theorem numbers_ofNumber_append {n : Nat} (small : n < 0x110000) (rest : List Char) :
    numbers (ofNumber n ++ rest) = n :: numbers rest := by
  unfold ofNumber
  split
  next marked =>
    have back : n + halfShift - halfShift = n := by omega
    simp [numbers, toNat_ofNat_of_isValid (isValidChar_shifted marked), back]
  next whole =>
    have whole : isMarked n = false := by simpa using whole
    have value := toNat_ofNat_of_isValid (isValidChar_of_not_marked small whole)
    have noMark : (Char.ofNat n == halfMark) = false := by
      rw [beq_eq_false_iff_ne]
      intro same
      rw [same] at value
      subst value
      simp [isMarked, halfMark] at whole
    cases rest <;> simp [numbers, value, noMark]

/-- What numbers are kept as gives them back. -/
theorem numbers_ofNumbers {ns : List Nat} (small : ∀ n ∈ ns, n < 0x110000) :
    numbers (ofNumbers ns) = ns := by
  induction ns with
  | nil => rfl
  | cons n rest ih =>
    show numbers (ofNumber n ++ ofNumbers rest) = n :: rest
    rw [numbers_ofNumber_append (small n (by simp)), ih fun m hm => small m (by simp [hm])]

end ClientGen.Text
