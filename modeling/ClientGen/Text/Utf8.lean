import ClientGen.Text.Chars
import ClientGen.Text.Half

/-!
# UTF-8

Bytes as text. The strict reading refuses ill-formed bytes and says where the first fault is and
what it is; the forgiving reading puts the replacement character in the place of each fault.
-/

namespace ClientGen.Text

/-- What is wrong with ill-formed bytes. -/
inductive EncodingFault
  | startByte
  | continuationByte
  | endOfData
  deriving DecidableEq, Repr

/-- The words for a fault. -/
def EncodingFault.message : EncodingFault → String
  | .startByte => "invalid start byte"
  | .continuationByte => "invalid continuation byte"
  | .endOfData => "unexpected end of data"

/-- One step of reading bytes. -/
inductive Utf8Step
  /-- A character in `width` bytes. -/
  | char (c : Char) (width : Nat)
  /-- A fault in `width` bytes, the first of which is `byte`. -/
  | fault (kind : EncodingFault) (byte : UInt8) (width : Nat)

/-- A byte that continues a character. -/
def isContinuation (b : UInt8) : Bool :=
  0x80 ≤ b && b < 0xC0

/-- Whether `b` may be the second byte after the first byte `a`: the ranges exclude characters
written too long, surrogates, and numbers beyond the last character. -/
def isSecond (a b : UInt8) : Bool :=
  if a == 0xE0 then 0xA0 ≤ b && b < 0xC0
  else if a == 0xED then 0x80 ≤ b && b < 0xA0
  else if a == 0xF0 then 0x90 ≤ b && b < 0xC0
  else if a == 0xF4 then 0x80 ≤ b && b < 0x90
  else isContinuation b

/-- The low six bits of a continuation byte. -/
def payload (b : UInt8) : Nat := b.toNat % 64

/-- How many bytes a first byte announces, none for a byte that cannot be first. -/
def announced (a : UInt8) : Option Nat :=
  if a < 0x80 then some 1
  else if a < 0xC2 then none
  else if a < 0xE0 then some 2
  else if a < 0xF0 then some 3
  else if a < 0xF5 then some 4
  else none

/-- The first step of reading bytes that start with `a`. -/
def utf8Step (a : UInt8) (rest : List UInt8) : Utf8Step :=
  match announced a, rest with
  | none, _ => .fault .startByte a 1
  | some 1, _ => .char (Char.ofNat a.toNat) 1
  | some _, [] => .fault .endOfData a 1
  | some n, b :: rest =>
    if !isSecond a b then .fault .continuationByte a 1
    else if n = 2 then .char (Char.ofNat (a.toNat % 32 * 64 + payload b)) 2
    else
      match rest with
      | [] => .fault .endOfData a 2
      | c :: rest =>
        if !isContinuation c then .fault .continuationByte a 2
        else if n = 3 then
          .char (Char.ofNat ((a.toNat % 16 * 64 + payload b) * 64 + payload c)) 3
        else
          match rest with
          | [] => .fault .endOfData a 3
          | d :: _ =>
            if !isContinuation d then .fault .continuationByte a 3
            else
              .char (Char.ofNat
                (((a.toNat % 8 * 64 + payload b) * 64 + payload c) * 64 + payload d)) 4

/-- The number of bytes a step takes. -/
def Utf8Step.width : Utf8Step → Nat
  | .char _ w => w
  | .fault _ _ w => w

/-- Read bytes as text with the replacement character for every fault. The first argument counts
the bytes that the step before has already taken. -/
def decodeLossy : Nat → List UInt8 → List Char
  | _, [] => []
  | taken + 1, _ :: rest => decodeLossy taken rest
  | 0, a :: rest =>
    match utf8Step a rest with
    | .char c w => ofNumber c.toNat ++ decodeLossy (w - 1) rest
    | .fault _ _ w => '\ufffd' :: decodeLossy (w - 1) rest

/-- The first fault of ill-formed bytes, with its offset. -/
def firstFault? : Nat → Nat → List UInt8 → Option (EncodingFault × UInt8 × Nat × Nat)
  | _, _, [] => none
  | offset, taken + 1, _ :: rest => firstFault? (offset + 1) taken rest
  | offset, 0, a :: rest =>
    match utf8Step a rest with
    | .char _ w => firstFault? (offset + 1) (w - 1) rest
    | .fault kind byte w => some (kind, byte, offset, w)

/-- The first fault of ill-formed bytes: its kind, the byte that it starts with, its offset, and how
many bytes it spans. -/
structure EncodingError where
  kind : EncodingFault
  byte : UInt8
  offset : Nat
  width : Nat
  deriving DecidableEq, Repr

/-- The words for an error. -/
def EncodingError.message (e : EncodingError) : String :=
  let where_ :=
    if e.width ≤ 1 then
      "byte 0x" ++ String.ofList (hexDigits 2 e.byte.toNat) ++ " in position " ++ toString e.offset
    else
      "bytes in position " ++ toString e.offset ++ "-" ++ toString (e.offset + e.width - 1)
  "'utf-8' codec can't decode " ++ where_ ++ ": " ++ e.kind.message

/-- Read bytes as text, or say what is wrong with them. -/
def decode (bytes : ByteArray) : Except EncodingError String :=
  if h : bytes.IsValidUTF8 then .ok (kept (String.fromUTF8 bytes h))
  else
    match firstFault? 0 0 bytes.toList with
    | some (kind, byte, offset, width) => .error ⟨kind, byte, offset, width⟩
    | none => .error ⟨.endOfData, 0, bytes.size, 1⟩

/-- Every line end as a single line feed. -/
def universalNewlines : List Char → List Char
  | [] => []
  | '\r' :: '\n' :: rest => '\n' :: universalNewlines rest
  | '\r' :: rest => '\n' :: universalNewlines rest
  | c :: rest => c :: universalNewlines rest

end ClientGen.Text
