import ClientGen.Text.Chars
import ClientGen.Text.Utf8

/-!
# Pointers into a document

The last segment of a pointer such as `#/components/schemas/User` is written with three kinds of
escape: bytes in base sixteen after a percent sign, `~1` for a slash, and `~0` for a tilde. They
are undone in this order.
-/

namespace ClientGen.Text

/-- The bytes of a text within ASCII whose percent escapes are undone; a percent sign without two
digits behind it stands for itself. -/
def percentBytes : List Char → List UInt8
  | [] => []
  | '%' :: a :: b :: rest =>
    match hexValue? a, hexValue? b with
    | some m, some n => UInt8.ofNat (m * 16 + n) :: percentBytes rest
    | _, _ => 0x25 :: percentBytes (a :: b :: rest)
  | c :: rest => UInt8.ofNat c.toNat :: percentBytes rest

/-- Undo the percent escapes. The bytes of one run of ASCII characters are read together; what is
no UTF-8 among them is replaced. Characters outside ASCII stay and separate the runs. -/
def percentDecode (s : List Char) : List Char :=
  go [] s
where
  /-- The run read so far comes first, in reverse. -/
  go (run : List Char) : List Char → List Char
    | [] => decodeLossy 0 (percentBytes run.reverse)
    | c :: rest =>
      if c.toNat < 0x80 then go (c :: run) rest
      else decodeLossy 0 (percentBytes run.reverse) ++ c :: go [] rest

/-- Read `~1` as a slash. -/
def readSlashes : List Char → List Char
  | [] => []
  | '~' :: '1' :: rest => '/' :: readSlashes rest
  | c :: rest => c :: readSlashes rest

/-- Read `~0` as a tilde. -/
def readTildes : List Char → List Char
  | [] => []
  | '~' :: '0' :: rest => '~' :: readTildes rest
  | c :: rest => c :: readTildes rest

/-- The text that a pointer's segment stands for. -/
def pointerSegment (s : List Char) : List Char :=
  readTildes (readSlashes (percentDecode s))

end ClientGen.Text
