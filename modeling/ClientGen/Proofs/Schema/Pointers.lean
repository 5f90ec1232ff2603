import ClientGen.Proofs.Text.Kept
import ClientGen.Schema.Node
import Mathlib.Tactic.Common

/-!
# Pointers to schemas

A pointer to a schema is written with three kinds of escape, which are undone one after the other. None
of them gets into another one's way: what is undone first leaves no text that a later one would take for
an escape unless it was one from the start. So a pointer to a schema of any name leads to that name.
-/

namespace ClientGen.Text

variable {s t u : List Char} {c : Char}

/-! ### Characters in UTF-8 -/

section Step

variable {a b : Nat} {x y z w : UInt8} (more : List UInt8)

lemma toNat_ofNat_of_lt (h : a < 256) : (UInt8.ofNat a).toNat = a :=
  Nat.mod_eq_of_lt h

/-- What a first byte announces. -/
lemma announced_ofNat (h : a < 256) : announced (.ofNat a) =
    if a < 0x80 then some 1 else if a < 0xC2 then none else if a < 0xE0 then some 2
      else if a < 0xF0 then some 3 else if a < 0xF5 then some 4 else none := by
  unfold announced
  simp only [UInt8.lt_iff_toNat_lt, toNat_ofNat_of_lt h]
  rfl

lemma isContinuation_ofNat (h : b < 64) : isContinuation (.ofNat (b + 128)) = true := by
  have value := toNat_ofNat_of_lt (a := b + 128) (by omega)
  simp only [isContinuation, UInt8.le_iff_toNat_le, UInt8.lt_iff_toNat_lt, value]
  grind

lemma payload_ofNat (h : b < 64) : payload (.ofNat (b + 128)) = b := by
  rw [payload, toNat_ofNat_of_lt (by omega)]
  omega

/-- A second byte fits a first one, unless it makes the number too small, too great or one of a half. -/
lemma isSecond_ofNat (ha : a < 256) (hb : b < 64)
    (fits : (a = 0xE0 → 0x20 ≤ b) ∧ (a = 0xED → b < 0x20) ∧ (a = 0xF0 → 0x10 ≤ b) ∧
      (a = 0xF4 → b < 0x10)) : isSecond (.ofNat a) (.ofNat (b + 128)) = true := by
  have first := toNat_ofNat_of_lt ha
  have second := toNat_ofNat_of_lt (a := b + 128) (by omega)
  simp only [isSecond, isContinuation, ← UInt8.toNat_inj, beq_iff_eq, UInt8.le_iff_toNat_le,
    UInt8.lt_iff_toNat_lt, first, second]
  grind

lemma utf8Step_one (h : announced x = some 1) :
    utf8Step x more = .char (Char.ofNat x.toNat) 1 := by
  simp [utf8Step, h]

lemma utf8Step_two (h : announced x = some 2) (second : isSecond x y = true) :
    utf8Step x (y :: more) = .char (Char.ofNat (x.toNat % 32 * 64 + payload y)) 2 := by
  simp [utf8Step, h, second]

lemma utf8Step_three (h : announced x = some 3) (second : isSecond x y = true)
    (third : isContinuation z = true) : utf8Step x (y :: z :: more) =
      .char (Char.ofNat ((x.toNat % 16 * 64 + payload y) * 64 + payload z)) 3 := by
  simp [utf8Step, h, second, third]

lemma utf8Step_four (h : announced x = some 4) (second : isSecond x y = true)
    (third : isContinuation z = true) (fourth : isContinuation w = true) :
    utf8Step x (y :: z :: w :: more) = .char (Char.ofNat
      (((x.toNat % 8 * 64 + payload y) * 64 + payload z) * 64 + payload w)) 4 := by
  simp [utf8Step, h, second, third, fourth]

/-- The first step of reading the bytes of a character reads the character. -/
lemma utf8Step_utf8EncodeChar (c : Char) : ∃ x bytes, String.utf8EncodeChar c = x :: bytes ∧
    utf8Step x (bytes ++ more) = .char c (bytes.length + 1) := by
  have valid : c.toNat < 0xD800 ∨ 0xDFFF < c.toNat ∧ c.toNat < 0x110000 := c.valid
  have back {n : Nat} (h : n = c.toNat) (width : Nat) : Utf8Step.char (.ofNat n) width = .char c width := by
    rw [h, Char.ofNat_toNat]
  have value : c.val.toNat = c.toNat := rfl
  unfold String.utf8EncodeChar
  rw [value]
  generalize c.toNat = v at valid back
  dsimp only
  have low : v % 64 < 64 := by omega
  have mid : v / 64 % 64 < 64 := by omega
  have high : v / 4096 % 64 < 64 := by omega
  split
  · have width : announced (.ofNat v) = some 1 := by
      rw [announced_ofNat (by omega), if_pos (by omega)]
    refine ⟨_, [], rfl, (utf8Step_one _ width).trans (back ?_ _)⟩
    exact toNat_ofNat_of_lt (by omega)
  split
  · have first := toNat_ofNat_of_lt (a := v / 64 % 32 + 192) (by omega)
    have width : announced (.ofNat (v / 64 % 32 + 192)) = some 2 := by
      rw [announced_ofNat (by omega)]
      grind
    have second := isSecond_ofNat (a := v / 64 % 32 + 192) (by omega) low (by omega)
    refine ⟨_, _, rfl, (utf8Step_two _ width second).trans (back ?_ _)⟩
    rw [first, payload_ofNat low]
    omega
  split
  · have first := toNat_ofNat_of_lt (a := v / 4096 % 16 + 224) (by omega)
    have width : announced (.ofNat (v / 4096 % 16 + 224)) = some 3 := by
      rw [announced_ofNat (by omega)]
      grind
    have second := isSecond_ofNat (a := v / 4096 % 16 + 224) (by omega) mid (by omega)
    refine ⟨_, _, rfl, (utf8Step_three _ width second (isContinuation_ofNat low)).trans (back ?_ _)⟩
    rw [first, payload_ofNat mid, payload_ofNat low]
    omega
  · have first := toNat_ofNat_of_lt (a := v / 262144 % 8 + 240) (by omega)
    have width : announced (.ofNat (v / 262144 % 8 + 240)) = some 4 := by
      rw [announced_ofNat (by omega)]
      grind
    have second := isSecond_ofNat (a := v / 262144 % 8 + 240) (by omega) high (by omega)
    refine ⟨_, _, rfl, (utf8Step_four _ width second (isContinuation_ofNat mid)
      (isContinuation_ofNat low)).trans (back ?_ _)⟩
    rw [first, payload_ofNat high, payload_ofNat mid, payload_ofNat low]
    omega

lemma decodeLossy_skip (bytes more : List UInt8) :
    decodeLossy bytes.length (bytes ++ more) = decodeLossy 0 more := by
  induction bytes with
  | nil => rfl
  | cons b bytes ih => exact ih

/-- The bytes of a character are read as the character. -/
lemma decodeLossy_utf8EncodeChar (c : Char) :
    decodeLossy 0 (String.utf8EncodeChar c ++ more) = ofNumber c.toNat ++ decodeLossy 0 more := by
  obtain ⟨x, bytes, form, step⟩ := utf8Step_utf8EncodeChar more c
  rw [form, List.cons_append, decodeLossy, step]
  exact congrArg _ (decodeLossy_skip bytes more)

end Step

/-! ### Percent escapes -/

/-- Each of some bytes as a percent sign and two digits in base sixteen, of either case. -/
inductive EscapesBytes : List UInt8 → List Char → Prop
  | nil : EscapesBytes [] []
  | cons {a b : Char} {m n : Nat} {bytes : List UInt8} {s : List Char} : hexValue? a = some m → hexValue? b = some n → EscapesBytes bytes s →
      EscapesBytes (.ofNat (m * 16 + n) :: bytes) ('%' :: a :: b :: s)

/-- A text with percent escapes for another one: any character may be escaped, as the bytes that it
has in UTF-8, and percent signs have to be. -/
inductive PercentEncodes : List Char → List Char → Prop
  | nil : PercentEncodes [] []
  | plain {c : Char} {s t : List Char} : c ≠ '%' → PercentEncodes s t → PercentEncodes (c :: s) (c :: t)
  | escaped {c : Char} {u s t : List Char} : EscapesBytes (String.utf8EncodeChar c) u → PercentEncodes s t →
      PercentEncodes (ofNumber c.toNat ++ s) (u ++ t)

lemma percentBytes_append {bytes : List UInt8} (h : EscapesBytes bytes u) (more : List Char) :
    percentBytes (u ++ more) = bytes ++ percentBytes more := by
  induction h with
  | nil => rfl
  | cons ha hb _ ih => simp only [List.cons_append, percentBytes, ha, hb, ih]

lemma percentBytes_plain (h : c ≠ '%') (more : List Char) :
    percentBytes (c :: more) = .ofNat c.toNat :: percentBytes more := by
  rw [percentBytes]
  rintro a b rest rfl
  exact absurd rfl h

/-- A run of ASCII characters is read as a text, whatever stands behind it. -/
def RunReads (run u : List Char) : Prop :=
  ∃ bytes, (∀ more, percentBytes (run ++ more) = bytes ++ percentBytes more) ∧
    ∀ more, decodeLossy 0 (bytes ++ more) = u ++ decodeLossy 0 more

lemma runReads_nil : RunReads [] [] :=
  ⟨[], fun _ => rfl, fun _ => rfl⟩

lemma RunReads.append {r r' u' : List Char} (h : RunReads r u) (h' : RunReads r' u') :
    RunReads (r ++ r') (u ++ u') := by
  obtain ⟨bytes, reads, text⟩ := h
  obtain ⟨bytes', reads', text'⟩ := h'
  refine ⟨bytes ++ bytes', fun more => ?_, fun more => ?_⟩
  · rw [List.append_assoc, reads, reads', List.append_assoc]
  · rw [List.append_assoc, text, text', List.append_assoc]

lemma runReads_plain (h : c ≠ '%') (ascii : c.toNat < 0x80) : RunReads [c] [c] := by
  have encoded : String.utf8EncodeChar c = [.ofNat c.toNat] := by
    rw [String.utf8EncodeChar]
    exact if_pos (Nat.le_of_lt_succ ascii)
  have single : ofNumber c.toNat = [c] := by
    refine ofNumber_toNat ?_
    rintro rfl
    exact absurd ascii (by decide)
  refine ⟨[.ofNat c.toNat], percentBytes_plain h, fun more => ?_⟩
  rw [← encoded, decodeLossy_utf8EncodeChar, single]

lemma runReads_escaped (h : EscapesBytes (String.utf8EncodeChar c) u) :
    RunReads u (ofNumber c.toNat) :=
  ⟨_, percentBytes_append h, fun more => decodeLossy_utf8EncodeChar more c⟩

lemma RunReads.decode (h : RunReads s u) : decodeLossy 0 (percentBytes s) = u := by
  obtain ⟨bytes, reads, text⟩ := h
  have whole := text []
  rw [← List.append_nil s, reads]
  simpa [percentBytes, decodeLossy] using whole


lemma hexValue?_ascii {n : Nat} (h : hexValue? c = some n) : c.toNat < 0x80 := by
  rcases hexValue?_cases h with digit | small | large
  all_goals omega

/-- What stands for bytes are ASCII characters, and no slash is among them. -/
lemma EscapesBytes.ascii {bytes : List UInt8} (h : EscapesBytes bytes u) : ∀ c ∈ u, c.toNat < 0x80 := by
  induction h with
  | nil => simp
  | cons ha hb _ ih =>
    exact List.forall_mem_cons.2 ⟨by decide, List.forall_mem_cons.2 ⟨hexValue?_ascii ha,
      List.forall_mem_cons.2 ⟨hexValue?_ascii hb, ih⟩⟩⟩

lemma EscapesBytes.slash_notMem {bytes : List UInt8} (h : EscapesBytes bytes u) : '/' ∉ u := by
  have digit {c : Char} {n : Nat} (h : hexValue? c = some n) : '/' ≠ c := by
    rintro rfl
    cases h
  induction h with
  | nil => simp
  | cons ha hb _ ih => simp [digit ha, digit hb, ih]

lemma percentDecode_go_append {r : List Char} (run : List Char) (ascii : ∀ c ∈ r, c.toNat < 0x80) :
    percentDecode.go run (r ++ t) = percentDecode.go (r.reverse ++ run) t := by
  induction r generalizing run with
  | nil => rfl
  | cons c r ih =>
    obtain ⟨hc, hr⟩ := List.forall_mem_cons.1 ascii
    rw [List.cons_append, percentDecode.go, if_pos hc, ih _ hr]
    simp

/-- Percent escapes are undone. -/
lemma percentDecode_of_percentEncodes (h : PercentEncodes s t) : percentDecode t = s := by
  have reads : ∀ run u, RunReads run.reverse u → percentDecode.go run t = u ++ s := by
    induction h with
    | nil =>
      intro run u read
      rw [percentDecode.go, read.decode, List.append_nil]
    | @plain c s t hc _ ih =>
      intro run u read
      rw [percentDecode.go]
      split
      · next ascii =>
        rw [ih (c :: run) (u ++ [c]) (by simpa using read.append (runReads_plain hc ascii))]
        simp
      · rw [read.decode, ih [] [] runReads_nil]
        simp
    | @escaped c v s t bytes _ ih =>
      intro run u read
      rw [percentDecode_go_append run bytes.ascii,
        ih _ (u ++ ofNumber c.toNat) (by simpa using read.append (runReads_escaped bytes))]
      simp
  exact reads [] [] runReads_nil

/-- Some bytes as percent signs with two digits each. -/
def escapedBytes (bytes : List UInt8) : List Char :=
  bytes.flatMap fun b =>
    ['%', (Nat.digitChar (b.toNat / 16)).toUpper, (Nat.digitChar (b.toNat % 16)).toUpper]

/-- A text whose percent signs are escaped, and all other characters with `reserved` numbers. A half
cannot be. -/
def percentEncoded (reserved : Nat → Bool) (s : List Char) : List Char :=
  (numbers s).flatMap fun n =>
    if isHalf n = false ∧ (n = '%'.toNat ∨ reserved n = true) then
      escapedBytes (String.utf8EncodeChar (Char.ofNat n))
    else ofNumber n

lemma escapesBytes_escapedBytes (bytes : List UInt8) : EscapesBytes bytes (escapedBytes bytes) := by
  have digit : ∀ d < 16, hexValue? (Nat.digitChar d).toUpper = some d := by decide
  induction bytes with
  | nil => exact .nil
  | cons b bytes ih =>
    have small := b.toNat_lt
    have byte : UInt8.ofNat (b.toNat / 16 * 16 + b.toNat % 16) = b := by
      rw [Nat.div_add_mod', UInt8.ofNat_toNat]
    have escapes := EscapesBytes.cons (digit (b.toNat / 16) (by omega))
      (digit (b.toNat % 16) (by omega)) ih
    rwa [byte] at escapes

lemma PercentEncodes.append_plain (h : PercentEncodes s t) (hu : '%' ∉ u) :
    PercentEncodes (u ++ s) (u ++ t) := by
  induction u with
  | nil => exact h
  | cons c u ih =>
    rw [List.mem_cons, not_or] at hu
    exact .plain (Ne.symm hu.1) (ih hu.2)

lemma percent_notMem_ofNumber {n : Nat} (small : n < 0x110000) (h : n ≠ '%'.toNat) :
    '%' ∉ ofNumber n := by
  unfold ofNumber
  split
  · next marked => simp [halfMark, Ne.symm (shifted_ne marked (c := '%') (by decide))]
  · next whole =>
    have value := toNat_ofNat_of_isValid (isValidChar_of_not_marked small (by simpa using whole))
    rw [List.mem_singleton]
    intro same
    rw [← same] at value
    exact h value.symm

/-- Every text that is kept can be encoded, whatever is escaped. -/
lemma percentEncodes_percentEncoded (reserved : Nat → Bool) (hs : Kept s) :
    PercentEncodes s (percentEncoded reserved s) := by
  have encodes : ∀ ns : List Nat, (∀ n ∈ ns, n < 0x110000) →
      PercentEncodes (ofNumbers ns) (ns.flatMap fun n =>
        if isHalf n = false ∧ (n = '%'.toNat ∨ reserved n = true) then
          escapedBytes (String.utf8EncodeChar (Char.ofNat n))
        else ofNumber n) := by
    intro ns
    induction ns with
    | nil => exact fun _ => .nil
    | cons n ns ih =>
      intro small
      obtain ⟨hn, hns⟩ := List.forall_mem_cons.1 small
      rw [List.flatMap_cons, ofNumbers, List.flatMap_cons]
      split
      · next escaped =>
        have value : (Char.ofNat n).toNat = n := by
          have whole := escaped.1
          simp only [isHalf, Bool.and_eq_false_iff, decide_eq_false_iff_not] at whole
          refine toNat_ofNat_of_isValid ?_
          unfold Nat.isValidChar
          omega
        have form := PercentEncodes.escaped (escapesBytes_escapedBytes
          (String.utf8EncodeChar (Char.ofNat n))) (ih hns)
        rwa [value] at form
      · next plain =>
        refine (ih hns).append_plain (percent_notMem_ofNumber hn ?_)
        rintro rfl
        exact plain ⟨rfl, .inl rfl⟩
  have whole := encodes (numbers s) hs.lt_of_mem_numbers
  rwa [hs.ofNumbers_numbers] at whole

/-! ### Tildes and slashes -/

/-- A text with `~0` for each tilde and `~1` for each slash. -/
def escapeTildes : List Char → List Char
  | [] => []
  | '~' :: rest => '~' :: '0' :: escapeTildes rest
  | '/' :: rest => '~' :: '1' :: escapeTildes rest
  | c :: rest => c :: escapeTildes rest

/-- Behind a tilde that was one from the start there is a zero while slashes are read, and behind the
slashes that were read there is no tilde more than before. -/
lemma readTildes_readSlashes (s : List Char) : readTildes (readSlashes (escapeTildes s)) = s := by
  fun_induction escapeTildes s with
  | case1 => rfl
  | case2 rest ih => simp [readSlashes, readTildes, ih]
  | case3 rest ih => simp [readSlashes, readTildes, ih]
  | case4 c rest tilde _ ih =>
    rw [readSlashes, readTildes, ih]
    · exact fun _ same _ => tilde same
    · exact fun _ same _ => tilde same

lemma slash_notMem_escapeTildes (s : List Char) : '/' ∉ escapeTildes s := by
  fun_induction escapeTildes s with
  | case1 => simp
  | case2 rest ih => simp [ih]
  | case3 rest ih => simp [ih]
  | case4 c rest _ slash ih => simp [ih, Ne.symm slash]

lemma escapeTildes_ne_nil (h : s ≠ []) : escapeTildes s ≠ [] := by
  fun_cases escapeTildes s with
  | case1 => exact absurd rfl h
  | case2 | case3 | case4 => simp

lemma PercentEncodes.slash_notMem (h : PercentEncodes s t) (hs : '/' ∉ s) : '/' ∉ t := by
  induction h with
  | nil => exact hs
  | plain _ _ ih =>
    rw [List.mem_cons, not_or] at hs ⊢
    exact ⟨hs.1, ih hs.2⟩
  | escaped bytes _ ih =>
    rw [List.mem_append, not_or] at hs ⊢
    exact ⟨bytes.slash_notMem, ih hs.2⟩

lemma PercentEncodes.ne_nil (h : PercentEncodes s t) (hs : s ≠ []) : t ≠ [] := by
  rintro rfl
  exact hs (percentDecode_of_percentEncodes h).symm

/-- The segment of a pointer that is written for a text stands for it. -/
lemma pointerSegment_of_percentEncodes (h : PercentEncodes (escapeTildes s) t) :
    pointerSegment t = s := by
  rw [pointerSegment, percentDecode_of_percentEncodes h, readTildes_readSlashes]

lemma dropHead?_eq_some : ∀ {head s rest : List Char},
    dropHead? head s = some rest ↔ s = head ++ rest
  | [], _, _ => Option.some_inj
  | _ :: _, [], _ => ⟨nofun, nofun⟩
  | h :: hs, c :: cs, rest => by
    rw [dropHead?]
    split
    · next same =>
      obtain rfl := eq_of_beq same
      rw [dropHead?_eq_some, List.cons_append, List.cons.injEq, and_iff_right rfl]
    · next other =>
      refine ⟨nofun, fun form => ?_⟩
      rw [(List.cons.inj form).1, beq_self_eq_true] at other
      exact absurd rfl other

end ClientGen.Text

namespace ClientGen.Schema

open Text

/-- No pointer leads into both tables. -/
lemma eq_of_tableHeads {head head' : String} (h : head ∈ tableHeads) (h' : head' ∈ tableHeads)
    {s t : List Char} (same : head.toList ++ s = head'.toList ++ t) : head = head' ∧ s = t := by
  simp only [tableHeads, List.mem_cons, List.not_mem_nil, or_false] at h h'
  rcases h with rfl | rfl <;> rcases h' with rfl | rfl
  · exact ⟨rfl, List.append_cancel_left same⟩
  · cases congrArg (·[2]?) same
  · cases congrArg (·[2]?) same
  · exact ⟨rfl, List.append_cancel_left same⟩

lemma segment?_eq_some {p rest : List Char} : segment? p = some rest ↔
    ∃ head ∈ tableHeads, p = head.toList ++ rest ∧ rest ≠ [] ∧ '/' ∉ rest := by
  have table (rest : List Char) :
      (tableHeads.findSome? fun head => dropHead? head.toList p) = some rest ↔ ∃ head ∈ tableHeads, p = head.toList ++ rest := by
    constructor
    · intro found
      obtain ⟨head, h, drops⟩ := List.exists_of_findSome?_eq_some found
      exact ⟨head, h, dropHead?_eq_some.1 drops⟩
    · rintro ⟨head, h, form⟩
      cases found : tableHeads.findSome? fun head => dropHead? head.toList p with
      | none =>
        have none := List.findSome?_eq_none_iff.1 found head h
        rw [dropHead?_eq_some.2 form] at none
        cases none
      | some r =>
        obtain ⟨head', h', drops⟩ := List.exists_of_findSome?_eq_some found
        obtain ⟨-, rfl⟩ := eq_of_tableHeads h h' (form.symm.trans (dropHead?_eq_some.1 drops))
        rfl
  unfold segment?
  constructor
  · intro found
    split at found
    · next r within =>
      split at found
      · cases found
      · next whole =>
        obtain rfl := Option.some.inj found
        obtain ⟨head, h, form⟩ := (table r).1 within
        simp only [Bool.or_eq_true, List.isEmpty_iff, List.contains_iff_mem, not_or] at whole
        exact ⟨head, h, form, whole⟩
    · cases found
  · rintro ⟨head, h, form, some, whole⟩
    rw [(table rest).2 ⟨head, h, form⟩]
    exact if_neg (by simp [some, whole])

/-- A pointer that is written for a name, with any of the characters escaped that need not be, leads to
that name. A pointer leads nowhere if and only if it leads into no table, or if nothing or more than one
segment is behind the table. -/
theorem targetName?_pointer :
    (∀ head ∈ tableHeads, ∀ (name : String) (rest : List Char), name ≠ "" →
      PercentEncodes (escapeTildes name.toList) rest →
      targetName? (head ++ String.ofList rest) = some name) ∧
    ∀ pointer : String, targetName? pointer = none ↔
      ∀ head ∈ tableHeads, ∀ rest, pointer.toList = head.toList ++ rest → rest = [] ∨ '/' ∈ rest := by
  constructor
  · intro head h name rest some encodes
    have some : name.toList ≠ [] := by simpa using some
    have segment : segment? (head ++ String.ofList rest).toList = .some rest := by
      refine segment?_eq_some.2 ⟨head, h, by simp, ?_, ?_⟩
      · exact encodes.ne_nil (escapeTildes_ne_nil some)
      · exact encodes.slash_notMem (slash_notMem_escapeTildes _)
    rw [targetName?, segment, Option.map_some, pointerSegment_of_percentEncodes encodes,
      String.ofList_toList]
  · intro pointer
    have none : targetName? pointer = none ↔ ∀ rest, segment? pointer.toList ≠ some rest := by
      rw [targetName?, Option.map_eq_none_iff, Option.eq_none_iff_forall_ne_some]
    rw [none]
    constructor
    · intro leads head h rest form
      by_contra other
      rw [not_or] at other
      exact leads rest (segment?_eq_some.2 ⟨head, h, form, other.1, other.2⟩)
    · intro leads rest segment
      obtain ⟨head, h, form, some, whole⟩ := segment?_eq_some.1 segment
      exact (leads head h rest form).elim some whole

/-- A name in which everything reads as an escape. -/
theorem targetName?_pointer_escapes :
    "#/definitions/" ∈ tableHeads ∧ "~1/%2F~01%7Eü" ≠ "" ∧
      PercentEncodes (escapeTildes "~1/%2F~01%7Eü".toList)
        "~01~1%252F~001%257E%C3%BC".toList ∧
      targetName? "#/definitions/~01~1%252F~001%257E%C3%BC" = some "~1/%2F~01%7Eü" := by
  have encodes := percentEncodes_percentEncoded (fun n => decide (0x80 ≤ n))
    (kept_of_notMem (s := escapeTildes "~1/%2F~01%7Eü".toList) (by decide))
  have form : percentEncoded (fun n => decide (0x80 ≤ n))
      (escapeTildes "~1/%2F~01%7Eü".toList) = "~01~1%252F~001%257E%C3%BC".toList := by
    decide +kernel
  rw [form] at encodes
  have head : "#/definitions/" ∈ tableHeads := by decide
  have leads := targetName?_pointer.1 _ head _ _ (by decide) encodes
  exact ⟨head, by decide, encodes, by simpa using leads⟩

end ClientGen.Schema
