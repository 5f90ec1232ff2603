/-!
# Characters and runs of characters

The character classes that names, documents and comments are read with, and the cutting of a text
into maximal runs of one class.
-/

namespace ClientGen.Text

/-- White space as the splitting of texts knows it: the Unicode property `White_Space`, and the
four information separators U+001C to U+001F. -/
def isBlank (c : Char) : Bool :=
  let n := c.toNat
  (9 ≤ n && n ≤ 13) || (28 ≤ n && n ≤ 32) || n == 0x85 || n == 0xA0 || n == 0x1680 ||
    (0x2000 ≤ n && n ≤ 0x200A) || n == 0x2028 || n == 0x2029 || n == 0x202F || n == 0x205F ||
    n == 0x3000

/-- The maximal runs of characters of the class `p`, in order. -/
def runs (p : Char → Bool) : List Char → List (List Char)
  | [] => []
  | c :: cs =>
    if p c then
      match cs with
      | [] => [[c]]
      | d :: _ =>
        if p d then
          match runs p cs with
          | [] => [[c]]
          | w :: ws => (c :: w) :: ws
        else [c] :: runs p cs
    else runs p cs

/-- The pieces between the occurrences of a character, one more than it occurs. -/
def pieces (mark : Char) : List Char → List (List Char)
  | [] => [[]]
  | c :: cs =>
    if c == mark then [] :: pieces mark cs
    else
      match pieces mark cs with
      | [] => [[c]]
      | w :: ws => (c :: w) :: ws

/-- The characters that end a line of a text. -/
def isLineEnd (c : Char) : Bool :=
  let n := c.toNat
  (10 ≤ n && n ≤ 13) || (28 ≤ n && n ≤ 30) || n == 0x85 || n == 0x2028 || n == 0x2029

/-- The lines of a text without their ends; a carriage return with a line feed is one end. -/
def lines : List Char → List (List Char)
  | [] => []
  | '\r' :: '\n' :: rest => [] :: lines rest
  | c :: rest =>
    if isLineEnd c then [] :: lines rest
    else
      match rest with
      | [] => [[c]]
      | d :: _ =>
        if isLineEnd d then
          match lines rest with
          | [] => [[c]]
          | _ :: more => [c] :: more
        else
          match lines rest with
          | [] => [[c]]
          | line :: more => (c :: line) :: more

/-- Drop the characters of the class `p` from the end. -/
def dropEndWhile (p : Char → Bool) (s : List Char) : List Char :=
  s.foldr (fun c r => if r.isEmpty && p c then [] else c :: r) []

/-- Drop the characters of the class `p` from both ends. -/
def stripWhile (p : Char → Bool) (s : List Char) : List Char :=
  dropEndWhile p (s.dropWhile p)

/-- `s` without `head` in front, when `s` starts with it. -/
def dropHead? (head s : List Char) : Option (List Char) :=
  match head, s with
  | [], s => some s
  | _ :: _, [] => none
  | h :: hs, c :: cs => if h == c then dropHead? hs cs else none

/-- Whether `s` ends with `tail`. -/
def endsWith (s tail : List Char) : Bool :=
  tail.isSuffixOf s

/-- Whether `part` occurs in `s` as consecutive characters. -/
def occursIn (part : List Char) : List Char → Bool
  | [] => part.isEmpty
  | c :: cs => part.isPrefixOf (c :: cs) || occursIn part cs

/-- The digits of `n` in base sixteen with lower-case letters, at least `width` of them. -/
def hexDigits (width n : Nat) : List Char :=
  let ds := Nat.toDigits 16 n
  List.replicate (width - ds.length) '0' ++ ds

/-- The value of a digit in base sixteen, of either case. -/
def hexValue? (c : Char) : Option Nat :=
  if c.isDigit then some (c.toNat - '0'.toNat)
  else if 'a' ≤ c && c ≤ 'f' then some (c.toNat - 'a'.toNat + 10)
  else if 'A' ≤ c && c ≤ 'F' then some (c.toNat - 'A'.toNat + 10)
  else none

/-! ### Ranges of characters

A class of characters as the ranges of its code points, in order.
-/

/-- Whether a character lies in one of some ranges, given by their first and last code points. -/
def inRanges (ranges : List (Nat × Nat)) (c : Char) : Bool :=
  ranges.any fun (first, last) => first ≤ c.toNat && c.toNat ≤ last

/-! ### Decimal digits

The decimal digits of all scripts: the Unicode 14.0 category `Decimal_Number`, whose members come in
runs of ten.
-/

/-- The code points of the digits zero, in order. -/
def zeroDigits : List Nat :=
  [48, 1632, 1776, 1984, 2406, 2534, 2662, 2790, 2918, 3046, 3174, 3302, 3430, 3558, 3664, 3792,
   3872, 4160, 4240, 6112, 6160, 6470, 6608, 6784, 6800, 6992, 7088, 7232, 7248, 42528, 43216,
   43264, 43472, 43504, 43600, 44016, 65296, 66720, 68912, 69734, 69872, 69942, 70096, 70384, 70736,
   70864, 71248, 71360, 71472, 71904, 72016, 72784, 73040, 73120, 92768, 92864, 93008, 120782,
   120792, 120802, 120812, 120822, 123200, 123632, 125264, 130032]

/-- The value of a decimal digit of any script. -/
def digitValue? (c : Char) : Option Nat :=
  (zeroDigits.find? fun first => first ≤ c.toNat && c.toNat < first + 10).map (c.toNat - ·)

/-- Whether a character is a decimal digit of some script. -/
def isDecimalDigit (c : Char) : Bool :=
  (digitValue? c).isSome

/-! ### Text inside a block comment

A description is put on one line, its words one space apart, and cannot end the comment it stands
in.
-/

/-- Separate the two characters that would end a comment. -/
def guardEnd : List Char → List Char
  | [] => []
  | '*' :: '/' :: rest => '*' :: '\\' :: '/' :: guardEnd rest
  | c :: rest => c :: guardEnd rest

/-- The words of a text, one space apart. -/
def oneLine (s : List Char) : List Char :=
  [' '].intercalate (runs (fun c => !isBlank c) s)

/-- A text as it stands inside a block comment. -/
def commentText (s : String) : String :=
  String.ofList (oneLine (guardEnd s.toList))

end ClientGen.Text
